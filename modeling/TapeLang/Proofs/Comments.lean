import TapeLang.Machine
import TapeLang.Proofs.Bracket.Depth

/-!
# Comments

Characters other than the eight instruction characters change nothing but the places of the symbols behind them. The
bracket check reads places only to report them, so two texts with the same instruction characters get the same verdict,
about the same symbol (`sameVerdict`), and compile with the same outcome (`SameOutcome`). Written out, a compiled body
is its text without comments (`written_emit_lex`).
-/

namespace TapeLang

/-! ### Texts and their instruction characters -/

/-- Whether a character is one of the eight instruction characters. -/
def isInstruction (c : Char) : Bool := (Symbol.ofChar? c).isSome

/-- The instruction characters of a text. -/
def withoutComments (text : String) : String := .ofList (text.toList.filter isInstruction)

/-- The instruction characters of a statement. A move is written as one arrow for each cell. -/
def Statement.instructions : Statement → List Char
  | .increment => ['+']
  | .decrement => ['-']
  | .move d => if 0 ≤ d then .replicate d.toInt.natAbs '>' else .replicate d.toInt.natAbs '<'
  | .write => ['.']
  | .read => [',']
  | .loopOpen => ['[']
  | .loopClose => [']']

/-- A body written as a text. -/
def written (body : List Statement) : String := .ofList (body.flatMap Statement.instructions)

/-- The place behind the first characters of a text. -/
def placeBehind (front : List Char) : Position := front.foldl .after .start

/-- The instruction character of a text that has `k` others before it is `c`, and stands at `p`. -/
def InstructionAt (text : String) (k : Nat) (c : Char) (p : Position) : Prop :=
  ∃ front back, text.toList = front ++ c :: back ∧ isInstruction c ∧ front.countP isInstruction = k ∧
    p = placeBehind front

theorem map_symbol_lexFrom (p : Position) (cs : List Char) :
    (lexFrom p cs).map (·.symbol) = cs.filterMap Symbol.ofChar? := by
  induction cs generalizing p with
  | nil => rfl
  | cons c cs ih =>
    rw [lexFrom, List.filterMap_cons]
    split
    · next s hs => rw [hs, List.map_cons, ih]
    · next hs => rw [hs, ih]

/-- The symbols of a text are those of its instruction characters. -/
theorem map_symbol_lex (text : String) :
    (lex text).map (·.symbol) = (withoutComments text).toList.filterMap Symbol.ofChar? := by
  rw [lex, map_symbol_lexFrom, withoutComments, String.toList_ofList, List.filterMap_filter]
  congr 1
  funext c
  cases h : Symbol.ofChar? c <;> simp [isInstruction, h]

theorem withoutComments_idem (text : String) : withoutComments (withoutComments text) = withoutComments text := by
  simp [withoutComments]

/-- The symbol with index `k` stands where the instruction character with `k` others before it does. -/
private theorem getElem?_lexFrom {p : Position} {cs : List Char} {k : Nat} {o : Occurrence}
    (h : (lexFrom p cs)[k]? = some o) :
    ∃ front back, cs = front ++ o.symbol.toChar :: back ∧ front.countP isInstruction = k ∧
      o.position = front.foldl .after p := by
  induction cs generalizing p k with
  | nil => simp [lexFrom] at h
  | cons c cs ih =>
    rw [lexFrom] at h
    split at h
    · next s hs =>
      cases k with
      | zero =>
        obtain rfl : ⟨s, p⟩ = o := by simpa using h
        exact ⟨[], cs, by rw [Symbol.ofChar?_eq_some.1 hs, List.nil_append], rfl, rfl⟩
      | succ k =>
        obtain ⟨front, back, rfl, hcount, hplace⟩ := ih h
        exact ⟨c :: front, back, rfl, by simp [isInstruction, hs, hcount], hplace⟩
    · next hs =>
      obtain ⟨front, back, rfl, hcount, hplace⟩ := ih h
      exact ⟨c :: front, back, rfl, by simp [isInstruction, hs, hcount], hplace⟩

theorem instructionAt_of_getElem?_lex {text : String} {k : Nat} {o : Occurrence} (h : (lex text)[k]? = some o) :
    InstructionAt text k o.symbol.toChar o.position := by
  obtain ⟨front, back, htext, hcount, hplace⟩ := getElem?_lexFrom h
  exact ⟨front, back, htext, by simp [isInstruction, Symbol.ofChar?_toChar], hcount, hplace⟩

theorem Statement.instructions_ofSymbol (y : Symbol) : (Statement.ofSymbol y).instructions = [y.toChar] := by
  cases y <;> rfl

/-- Written out, the statements of a text are its instruction characters. -/
theorem written_emit_lex (text : String) : written (emit (lex text)) = withoutComments text := by
  have hbody (p : Position) (cs : List Char) :
      (emit (lexFrom p cs)).flatMap Statement.instructions = cs.filter isInstruction := by
    induction cs generalizing p with
    | nil => rfl
    | cons c cs ih =>
      rw [lexFrom]
      split
      · next s hs =>
        rw [emit, List.map_cons, ← emit, List.flatMap_cons, ih, Statement.instructions_ofSymbol,
          List.filter_cons_of_pos (by simp [isInstruction, hs]), Symbol.ofChar?_eq_some.1 hs, List.singleton_append]
      · next hs => rw [ih, List.filter_cons_of_neg (by simp [isInstruction, hs])]
  rw [written, lex, hbody, withoutComments]

/-! ### The bracket check without places -/

/-- Two verdicts of the bracket check that differ only in the places of symbols: either program is accepted with the
same matching, or the same symbol of both has no partner. -/
inductive SameVerdict (a b : List Occurrence) : Except BracketError Matching → Except BracketError Matching → Prop where
  | accepted (m : Matching) : SameVerdict a b (.ok m) (.ok m)
  | unclosed {k : Nat} {x y : Occurrence} (hx : a[k]? = some x) (hy : b[k]? = some y) (hxs : x.symbol = .loopOpen)
      (hys : y.symbol = .loopOpen) : SameVerdict a b (.error (.unclosed x.position)) (.error (.unclosed y.position))
  | unopened {k : Nat} {x y : Occurrence} (hx : a[k]? = some x) (hy : b[k]? = some y) (hxs : x.symbol = .loopClose)
      (hys : y.symbol = .loopClose) : SameVerdict a b (.error (.unopened x.position)) (.error (.unopened y.position))

section

variable {a b : List Occurrence}

theorem emit_congr (h : a.map (·.symbol) = b.map (·.symbol)) : emit a = emit b := by
  have key := congrArg (List.map Statement.ofSymbol) h
  simpa only [emit, List.map_map, Function.comp_def] using key

theorem depth_congr (h : a.map (·.symbol) = b.map (·.symbol)) : depth a = depth b := by
  have hcount (program : List Occurrence) (k : Nat) (y : Symbol) :
      (program.take k).countP (·.symbol = y) = ((program.map (·.symbol)).take k).countP (· = y) := by
    rw [← List.map_take, List.countP_map]
    rfl
  funext k
  simp only [depth, hcount, h]

theorem opensAt_congr (h : a.map (·.symbol) = b.map (·.symbol)) {j : Nat} : OpensAt a j ↔ OpensAt b j := by
  have hat (program : List Occurrence) : OpensAt program j ↔ (program.map (·.symbol))[j]? = some .loopOpen := by
    simp [OpensAt]
  rw [hat, hat, h]

theorem unclosed_congr (h : a.map (·.symbol) = b.map (·.symbol)) : Unclosed a = Unclosed b := by
  have hlength : a.length = b.length := by simpa using congrArg List.length h
  ext j
  simp only [Unclosed, Set.mem_ofPred_eq, opensAt_congr h, depth_congr h, hlength]

/-- Programs with the same symbols get the same verdict. -/
theorem sameVerdict (h : a.map (·.symbol) = b.map (·.symbol)) :
    SameVerdict a b (matchBrackets a) (matchBrackets b) := by
  have hlength : a.length = b.length := by simpa using congrArg List.length h
  have hok : (∃ m, matchBrackets a = .ok m) ↔ ∃ m, matchBrackets b = .ok m := by
    rw [isOk_matchBrackets_iff, isOk_matchBrackets_iff, depth_congr h, hlength]
  have hagrees {program : List Occurrence} {e : BracketError} (he : matchBrackets program = .error e) :
      Agrees program (.error e) := by
    rw [← matchBrackets_eq_error.1 he]
    exact agrees_matchBrackets program
  rcases ha : matchBrackets a with (p | p) | m <;> rcases hb : matchBrackets b with (q | q) | m' <;>
    simp only [ha, hb, reduceCtorEq, exists_false, Except.ok.injEq, exists_eq', iff_true, iff_false,
      not_true_eq_false] at hok
  · obtain ⟨-, -, i, x, hx, rfl, hxs, hi⟩ := hagrees ha
    obtain ⟨-, -, j, y, hy, rfl, hys, hj⟩ := hagrees hb
    rw [unclosed_congr h] at hi
    obtain rfl := hi.unique hj
    exact .unclosed hx hy hxs hys
  · obtain ⟨hnonneg, -⟩ := hagrees ha
    obtain ⟨j, y, hy, -, -, hj, -⟩ := hagrees hb
    have hlt := (List.getElem?_eq_some_iff.1 hy).1
    rw [depth_congr h] at hnonneg
    exact absurd hj (Int.not_lt.2 (hnonneg (j + 1) (by omega)))
  · obtain ⟨i, x, hx, -, -, hi, -⟩ := hagrees ha
    obtain ⟨hnonneg, -⟩ := hagrees hb
    have hlt := (List.getElem?_eq_some_iff.1 hx).1
    rw [← depth_congr h] at hnonneg
    exact absurd hi (Int.not_lt.2 (hnonneg (i + 1) (by omega)))
  · obtain ⟨i, x, hx, rfl, hxs, hi⟩ := hagrees ha
    obtain ⟨j, y, hy, rfl, hys, hj⟩ := hagrees hb
    rw [depth_congr h] at hi
    obtain rfl := hi.unique hj
    exact .unopened hx hy hxs hys
  · obtain rfl : m = m' := by
      have hpairs : m.pairs = m'.pairs := by rw [pairs_eq_spans ha, pairs_eq_spans hb, emit_congr h]
      cases m
      cases m'
      exact congrArg _ hpairs
    exact .accepted m

end

/-! ### Compiling texts with comments -/

/-- Two results of compiling that differ only in the digest of the text and in the places of symbols. -/
inductive SameOutcome (a b : String) : Except CompileError Function → Except CompileError Function → Prop where
  | compiled {f g : Function} (hname : f.name = g.name) (hsource : f.source = g.source) (hbody : f.body = g.body) :
      SameOutcome a b (.ok f) (.ok g)
  | unclosed {k : Nat} {p q : Position} (hp : InstructionAt a k '[' p) (hq : InstructionAt b k '[' q) :
      SameOutcome a b (.error (.brackets (.unclosed p))) (.error (.brackets (.unclosed q)))
  | unopened {k : Nat} {p q : Position} (hp : InstructionAt a k ']' p) (hq : InstructionAt b k ']' q) :
      SameOutcome a b (.error (.brackets (.unopened p))) (.error (.brackets (.unopened q)))
  | noName (file : String) : SameOutcome a b (.error (.noName file)) (.error (.noName file))

section

variable {a b : String}

theorem sameOutcome_compile (name : String) (h : withoutComments a = withoutComments b) :
    SameOutcome a b (compile (.ofText name a)) (compile (.ofText name b)) := by
  have hsymbols : (lex a).map (·.symbol) = (lex b).map (·.symbol) := by rw [map_symbol_lex, map_symbol_lex, h]
  have hverdict := sameVerdict hsymbols
  unfold compile
  simp only [Source.ofText, Source.stem]
  generalize hva : matchBrackets (lex a) = va at hverdict
  generalize hvb : matchBrackets (lex b) = vb at hverdict
  cases hverdict with
  | accepted m =>
    cases Name.identifier? (Path.stem name) with
    | none => exact .noName name
    | some n => exact .compiled rfl rfl (emit_congr hsymbols)
  | unclosed hx hy hxs hys =>
    have hp := instructionAt_of_getElem?_lex hx
    have hq := instructionAt_of_getElem?_lex hy
    rw [hxs] at hp
    rw [hys] at hq
    exact .unclosed hp hq
  | unopened hx hy hxs hys =>
    have hp := instructionAt_of_getElem?_lex hx
    have hq := instructionAt_of_getElem?_lex hy
    rw [hxs] at hp
    rw [hys] at hq
    exact .unopened hp hq

theorem SameOutcome.body_eq {f g : Function} (h : SameOutcome a b (.ok f) (.ok g)) : f.body = g.body := by
  cases h with
  | compiled _ _ hbody => exact hbody

/-- What compiles with one text compiles with any other of the same instruction characters. -/
theorem exists_compile_of_withoutComments_eq {name : String} {f : Function}
    (hf : compile (.ofText name a) = .ok f) (h : withoutComments a = withoutComments b) :
    ∃ g, compile (.ofText name b) = .ok g ∧ g.name = f.name ∧ g.body = f.body := by
  have houtcome := sameOutcome_compile name h
  rw [hf] at houtcome
  generalize compile (.ofText name b) = result at houtcome ⊢
  cases houtcome with
  | @compiled _ g hname _ hbody => exact ⟨g, rfl, hname.symm, hbody.symm⟩

theorem written_body {name : String} {f : Function} (hf : compile (.ofText name a) = .ok f) :
    written f.body = withoutComments a := by
  rw [(body_of_compile hf).1]
  exact written_emit_lex a

/-- Comments have no effect: of two texts with the same instruction characters either both compile, to the same name
and the same body, or both fail in the same way at the same instruction; a compiled body runs the same, and it is what
the text without comments and the written body compile to. -/
theorem comments_have_no_effect (name : String) (h : withoutComments a = withoutComments b) :
    SameOutcome a b (compile (.ofText name a)) (compile (.ofText name b)) ∧
    (∀ f g, compile (.ofText name a) = .ok f → compile (.ofText name b) = .ok g → ∀ (k : Machine) (input : List UInt8),
      (∀ limit, k.run limit f.body input = k.run limit g.body input) ∧
        ∀ out, k.Yields f.body input out ↔ k.Yields g.body input out) ∧
    (∀ f, compile (.ofText name a) = .ok f →
      (∃ g, compile (.ofText name (withoutComments a)) = .ok g ∧ g.name = f.name ∧ g.body = f.body) ∧
        ∃ g, compile (.ofText name (written f.body)) = .ok g ∧ g.name = f.name ∧ g.body = f.body) := by
  refine ⟨sameOutcome_compile name h, fun f g hf hg k input => ?_, fun f hf => ?_⟩
  · have hbody := (hf ▸ hg ▸ sameOutcome_compile name h).body_eq
    rw [hbody]
    exact ⟨fun _ => rfl, fun _ => Iff.rfl⟩
  · have hsame : withoutComments a = withoutComments (withoutComments a) := (withoutComments_idem a).symm
    rw [written_body hf]
    exact ⟨exists_compile_of_withoutComments_eq hf hsame, exists_compile_of_withoutComments_eq hf hsame⟩

end

/-- With comments before, in and behind it, a loop that is never closed is reported where it stands then. -/
theorem comments_have_no_effect_unclosed :
    compile (.ofText "a.bf" "clear\n[ - é") = .error (.brackets (.unclosed ⟨6, 2, 1⟩)) ∧
      compile (.ofText "a.bf" "[-") = .error (.brackets (.unclosed ⟨0, 1, 1⟩)) ∧
      SameOutcome "clear\n[ - é" "[-" (compile (.ofText "a.bf" "clear\n[ - é")) (compile (.ofText "a.bf" "[-")) :=
  ⟨rfl, rfl, (comments_have_no_effect "a.bf" (by decide)).1⟩

end TapeLang
