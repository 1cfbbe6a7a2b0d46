import TapeLang.Proofs.Faults
import TapeLang.Proofs.Reading.Rendered

/-!
# Running generated Rust code

The statements of a generated Rust function are read as commands over its variables, with the pointer in 64-bit
unsigned arithmetic, and run step by step. A step keeps the pointer on the tape (`Safe.step`), and along the
translation of blocks the commands do what the reference machine does (`respects_step`): a read takes two steps, every
other tick one. So the code ends with the output that the machine gives, or neither ends (`halts_iff_yields`).
-/

namespace TapeLang.Rust

open StateTransition (Reaches Reaches₁ Respects)
open Relation (TransGen)
open Code Reading

/-! ### Commands -/

/-- A line of a generated function, or a loop with its lines. -/
inductive Command where
  | increment
  | decrement
  /-- The pointer goes forward by `step` modulo the size of the tape. -/
  | advance (step : Nat)
  | push
  /-- The current cell becomes the next byte of the input, or zero behind its end. -/
  | load
  /-- The position in the input goes to the next byte. -/
  | skip
  | loop (body : List Command)

/-- The command of each line. -/
def legend : Legend Command :=
  ⟨"ptr = (ptr + ", ") % TAPE_SIZE;", fun n => some (.advance n), [
    ([.line "tape[ptr] = tape[ptr].wrapping_add(1);"], [.item .increment]),
    ([.line "tape[ptr] = tape[ptr].wrapping_sub(1);"], [.item .decrement]),
    ([.line "output.push(char::from(tape[ptr]));"], [.item .push]),
    ([.line "tape[ptr] = input.get(input_pos).copied().unwrap_or(0);"], [.item .load]),
    ([.line "input_pos += 1;"], [.item .skip]),
    ([.line "while tape[ptr] != 0 \x7b"], [.enter]),
    ([.line "\x7d"], [.leave])]⟩

/-- The commands that the statements of a function stand for. -/
def readCommands (text : String) : Option (List Command) :=
  legend.read .loop (braced (rows text))

/-- The commands of a statement. -/
def leaf (size : Nat) : Statement → List Command
  | .increment => [.increment]
  | .decrement => [.decrement]
  | .move d => [.advance (pointerStep d.toInt size)]
  | .write => [.push]
  | .read => [.load, .skip]
  | .loopOpen => []
  | .loopClose => []

/-- The commands of blocks. -/
def commands (size : Nat) (blocks : List Block) : List Command := translateAll (leaf size) .loop blocks

private theorem knows_rust (size : Nat) : legend.Knows (leaf size) (lexemeLayout .rust size) := by
  have hclear : legend.Clear := ⟨by decide, by decide, by decide +kernel, by decide +kernel⟩
  have hgroup := hclear.spells_at
  have henter : ∀ depth, legend.Spells ((lexemeLayout .rust size).enter depth) [.enter] := fun _ => hgroup 5 _ rfl
  have hleave : ∀ depth, legend.Spells ((lexemeLayout .rust size).leave depth) [.leave] := fun _ => hgroup 6 _ rfl
  refine ⟨fun depth s hs => ?_, henter, hleave, fun depth => .inl ((henter depth).append (hleave depth))⟩
  rw [lexemeLayout_plain]
  cases s with
  | increment => exact hgroup 0 _ rfl
  | decrement => exact hgroup 1 _ rfl
  | move d => exact hclear.spells_move rfl
  | write => exact hgroup 2 _ rfl
  | read => exact (hgroup 3 _ rfl).append (hgroup 4 _ rfl)
  | loopOpen => nomatch hs
  | loopClose => nomatch hs

/-! ### Steps -/

/-- The variables of a generated function. -/
structure Variables (n : Nat) where
  tape : Vector UInt8 n
  ptr : UInt64
  inputPos : Nat
  output : String

/-- The value of the cell under the pointer, if the pointer is on the tape. -/
def Variables.current {n : Nat} (v : Variables n) : Option UInt8 := v.tape[v.ptr.toNat]?

def Variables.store {n : Nat} (v : Variables n) (x : UInt8) : Variables n :=
  { v with tape := v.tape.setIfInBounds v.ptr.toNat x }

/-- The code still to be executed, and the variables. -/
structure Config (n : Nat) where
  code : List Command
  vars : Variables n

/-- A zeroed tape before the first command. -/
def Config.start (n : Nat) (code : List Command) : Config n := ⟨code, ⟨Vector.replicate n 0, 0, 0, ""⟩⟩

/-- One step. There is none at the end, and none that reads the tape behind its last cell. -/
def step {n : Nat} (input : List UInt8) : Config n → Option (Config n)
  | ⟨[], _⟩ => none
  | ⟨.increment :: rest, v⟩ => v.current.map fun x => ⟨rest, v.store (x + 1)⟩
  | ⟨.decrement :: rest, v⟩ => v.current.map fun x => ⟨rest, v.store (x - 1)⟩
  | ⟨.advance k :: rest, v⟩ => some ⟨rest, { v with ptr := (v.ptr + .ofNat k) % .ofNat n }⟩
  | ⟨.push :: rest, v⟩ => v.current.map fun x => ⟨rest, { v with output := v.output.push (Char.ofNat x.toNat) }⟩
  | ⟨.load :: rest, v⟩ => v.current.map fun _ => ⟨rest, v.store (input[v.inputPos]?.getD 0)⟩
  | ⟨.skip :: rest, v⟩ => some ⟨rest, { v with inputPos := v.inputPos + 1 }⟩
  | ⟨.loop body :: rest, v⟩ => v.current.map fun x => ⟨if x = 0 then rest else body ++ .loop body :: rest, v⟩

/-- The code ends with the output `out`. -/
def Halts (n : Nat) (code : List Command) (input : List UInt8) (out : String) : Prop :=
  ∃ c, Reaches (step input) (Config.start n code) c ∧ c.code = [] ∧ c.vars.output = out

/-! ### Staying on the tape -/

mutual

/-- The steps by which a command can move the pointer. -/
def Command.steps : Command → List Nat
  | .advance k => [k]
  | .loop body => stepsAll body
  | _ => []

def stepsAll : List Command → List Nat
  | [] => []
  | c :: rest => c.steps ++ stepsAll rest

end

theorem stepsAll_append (as bs : List Command) : stepsAll (as ++ bs) = stepsAll as ++ stepsAll bs := by
  induction as with
  | nil => simp [stepsAll]
  | cons c as ih => simp [stepsAll, ih]

/-- The pointer is on the tape, and no move goes once around it. -/
structure Safe {n : Nat} (c : Config n) : Prop where
  pointer : c.vars.ptr.toNat < n
  steps : ∀ k ∈ stepsAll c.code, k < n

section

variable {n : Nat} {input : List UInt8}

private theorem toNat_advance (hn : n < 2 ^ 63) {ptr : UInt64} (hptr : ptr.toNat < n) {k : Nat} (hk : k < n) :
    ((ptr + .ofNat k) % .ofNat n).toNat = (ptr.toNat + k) % n := by
  have hsize : n < UInt64.size := by
    show n < 2 ^ 64
    omega
  have hsum : (ptr.toNat + k) % 2 ^ 64 = ptr.toNat + k := Nat.mod_eq_of_lt (by omega)
  rw [UInt64.toNat_mod, UInt64.toNat_add, UInt64.toNat_ofNat_of_lt' (Nat.lt_trans hk hsize),
    UInt64.toNat_ofNat_of_lt' hsize, hsum]

/-- A step keeps the pointer on the tape. -/
theorem Safe.step (hn : n < 2 ^ 63) {c c' : Config n} (h : Safe c) (hstep : step input c = some c') : Safe c' := by
  obtain ⟨code, v⟩ := c
  obtain ⟨hptr, hsteps⟩ := h
  cases code with
  | nil => cases hstep
  | cons cmd rest =>
    simp only [stepsAll, List.mem_append] at hptr hsteps
    have hrest : ∀ k ∈ stepsAll rest, k < n := fun k hk => hsteps k (.inr hk)
    cases cmd with
    | advance k =>
      have hk := hsteps k (.inl (List.mem_singleton_self k))
      cases hstep
      refine ⟨?_, hrest⟩
      show ((v.ptr + .ofNat k) % .ofNat n).toNat < n
      rw [toNat_advance hn hptr hk]
      exact Nat.mod_lt _ (by omega)
    | skip =>
      cases hstep
      exact ⟨hptr, hrest⟩
    | loop body =>
      obtain ⟨x, -, rfl⟩ := Option.map_eq_some_iff.1 hstep
      refine ⟨hptr, ?_⟩
      simp only
      split
      · exact hrest
      · intro k hk
        rw [stepsAll_append, List.mem_append, stepsAll, List.mem_append] at hk
        rcases hk with hk | hk | hk
        · exact hsteps k (.inl hk)
        · exact hsteps k (.inl hk)
        · exact hrest k hk
    | _ =>
      obtain ⟨x, -, rfl⟩ := Option.map_eq_some_iff.1 hstep
      exact ⟨hptr, hrest⟩

theorem Safe.reaches (hn : n < 2 ^ 63) {c c' : Config n} (h : Safe c) (hreach : Reaches (Rust.step input) c c') :
    Safe c' := by
  induction hreach with
  | refl => exact h
  | tail _ hstep ih => exact ih.step hn hstep

/-- Code whose pointer is on the tape stops at its end only. -/
theorem Safe.eq_nil {c : Config n} (h : Safe c) (hend : Rust.step input c = none) : c.code = [] := by
  obtain ⟨code, v⟩ := c
  obtain ⟨x, hcurrent⟩ : ∃ x, v.current = some x := ⟨_, Vector.getElem?_eq_getElem h.pointer⟩
  cases code with
  | nil => rfl
  | cons cmd rest =>
    cases cmd with
    | advance k => cases hend
    | skip => cases hend
    | _ =>
      rw [Rust.step, hcurrent] at hend
      cases hend

private theorem lt_of_mem_commands (hlow : 1 ≤ n) (hhigh : n < 2 ^ 63) {P : Statement → Prop} {bs : List Block}
    (h : Leaves P bs) : ∀ k ∈ stepsAll (commands n bs), k < n := by
  unfold commands
  induction h with
  | nil => simp [stepsAll]
  | @plain s rest _ _ ih =>
    intro k hk
    rw [translateAll_plain, stepsAll_append, List.mem_append] at hk
    rcases hk with hk | hk
    · cases s with
      | move d =>
        simp only [leaf, stepsAll, Command.steps, List.append_nil, List.mem_singleton] at hk
        rw [hk]
        exact pointerStep_lt d.toInt hlow (by omega)
      | _ => simp [leaf, stepsAll, Command.steps] at hk
    · exact ih k hk
  | loop _ _ ihInner ihRest =>
    intro k hk
    rw [translateAll_loop, stepsAll, List.mem_append] at hk
    rcases hk with hk | hk
    · exact ihInner k hk
    · exact ihRest k hk

end

/-! ### The simulation -/

/-- A memory of the reference machine and the variables of the code agree. -/
structure Agrees {n : Nat} (input : List UInt8) (m : Memory) (v : Variables n) : Prop where
  on_tape : m.tape.pointer < m.tape.length
  size : m.tape.length = n
  cells : ∀ i (hi : i < n), v.tape[i] = m.tape.cell i
  pointer : v.ptr.toNat = m.tape.pointer
  input : m.input = input.drop v.inputPos
  output : v.output = m.output

namespace Agrees

variable {n : Nat} {input : List UInt8} {m : Memory} {v : Variables n}

theorem pointer_lt (h : Agrees input m v) : v.ptr.toNat < n := by
  rw [h.pointer, ← h.size]
  exact h.on_tape

theorem current (h : Agrees input m v) : v.current = some m.tape.get := by
  rw [Variables.current, Vector.getElem?_eq_getElem h.pointer_lt, h.cells _ h.pointer_lt, h.pointer]
  rfl

theorem store (h : Agrees input m v) (x : UInt8) :
    Agrees input { m with tape := m.tape.set x } (v.store x) where
  on_tape := h.on_tape
  size := h.size
  cells i hi := by
    simp only [Variables.store, Vector.getElem_setIfInBounds, Tape.cell_set, h.pointer, eq_comm (a := i)]
    split
    · rfl
    · exact h.cells i hi
  pointer := h.pointer
  input := h.input
  output := h.output

/-- Going forward by the printed step is the move. -/
theorem advance (h : Agrees input m v) (d : Int) :
    Agrees input { m with tape := m.tape.turn d }
      { v with ptr := (v.ptr + .ofNat (pointerStep d n)) % .ofNat n } where
  on_tape := m.tape.pointer_turn_lt d
  size := h.size
  cells := h.cells
  pointer := by
    have hn : n < 2 ^ 63 := h.size ▸ m.tape.length_lt_two_pow
    have hptr := h.pointer_lt
    have hturn := m.tape.pointer_turn_eq_step d
    rw [h.size] at hturn
    rw [toNat_advance hn hptr (pointerStep_lt d (by omega) (by omega)), h.pointer]
    exact hturn.symm
  input := h.input
  output := h.output

end Agrees

/-- A statement of a compiled body that is no bracket. -/
def Simple (s : Statement) : Prop := s.isBracket = false ∧ ∀ d, s = .move d → d = 1 ∨ d = -1

/-- A run of the reference machine and a configuration that is about to execute the commands of its blocks. -/
structure Simulates {n : Nat} (input : List UInt8) (r : Run) (c : Config n) : Prop where
  code : c.code = commands n r.blocks
  leaves : Leaves Simple r.blocks
  agrees : ∃ m, r.memory = .ok m ∧ Agrees input m c.vars

section

variable {n : Nat} {input : List UInt8}

/-- A read takes the byte at the position, which then goes to the next one. -/
private theorem Agrees.read {m : Memory} {v : Variables n} (h : Agrees input m v) :
    Agrees input m.read { v.store (input[v.inputPos]?.getD 0) with inputPos := v.inputPos + 1 } := by
  have hstore := h.store (input[v.inputPos]?.getD 0)
  rw [Memory.read_eq h.input]
  exact ⟨hstore.on_tape, hstore.size, hstore.cells, hstore.pointer, rfl, hstore.output⟩

/-- The commands of a statement do what it does. -/
private theorem reaches_leaf {s : Statement} (hs : Simple s) {m : Memory} {v : Variables n} (h : Agrees input m v)
    (rest : List Command) :
    ∃ m' v', m.apply s = .ok m' ∧ Agrees input m' v' ∧
      Reaches₁ (step input) ⟨leaf n s ++ rest, v⟩ ⟨rest, v'⟩ := by
  have hcurrent := h.current
  cases s with
  | increment =>
    have hstep : step input ⟨.increment :: rest, v⟩ = some ⟨rest, v.store (m.tape.get + 1)⟩ := by
      rw [step, hcurrent, Option.map_some]
    exact ⟨_, _, rfl, h.store _, .single hstep⟩
  | decrement =>
    have hstep : step input ⟨.decrement :: rest, v⟩ = some ⟨rest, v.store (m.tape.get - 1)⟩ := by
      rw [step, hcurrent, Option.map_some]
    exact ⟨_, _, rfl, h.store _, .single hstep⟩
  | move d =>
    have happly : m.apply (.move d) = .ok { m with tape := m.tape.turn d.toInt } := by
      rw [Memory.apply_move, Tape.move_unit h.on_tape (hs.2 d rfl)]
      rfl
    exact ⟨_, _, happly, h.advance d.toInt, .single rfl⟩
  | write =>
    have hpush : Agrees input m.write { v with output := v.output.push (Char.ofNat m.tape.get.toNat) } :=
      ⟨h.on_tape, h.size, h.cells, h.pointer, h.input, by rw [h.output]; rfl⟩
    refine ⟨_, _, rfl, hpush, .single ?_⟩
    show step input ⟨.push :: rest, v⟩ = _
    rw [step, hcurrent, Option.map_some]
  | read =>
    have hstep : step input ⟨.load :: .skip :: rest, v⟩ =
        some ⟨.skip :: rest, v.store (input[v.inputPos]?.getD 0)⟩ := by
      rw [step, hcurrent, Option.map_some]
    exact ⟨_, _, rfl, h.read, .head hstep (.single rfl)⟩
  | loopOpen => nomatch hs.1
  | loopClose => nomatch hs.1

/-- Each tick of the reference machine is one step of the code, or two when it reads. -/
theorem respects_step : Respects Run.next (step (n := n) input) (Simulates input) := by
  rintro ⟨blocks, _, t⟩ ⟨code, v⟩ ⟨hcode, hleaves, m, rfl, hagrees⟩
  simp only at hcode hleaves hagrees
  subst hcode
  cases hleaves with
  | nil => rfl
  | @plain s rest hs hrest =>
    obtain ⟨m', v', happly, hagrees', hreach⟩ := reaches_leaf hs hagrees (commands n rest)
    refine ⟨⟨commands n rest, v'⟩, ⟨rfl, hrest, m', happly, hagrees'⟩, ?_⟩
    rwa [commands, translateAll_plain]
  | @loop inner rest hinner hrest =>
    have hstep : step input ⟨commands n (.loop inner :: rest), v⟩ =
        some ⟨if m.tape.get = 0 then commands n rest else commands n (inner ++ .loop inner :: rest), v⟩ := by
      rw [commands, translateAll_loop, step, hagrees.current, Option.map_some, commands, commands,
        translateAll_append, translateAll_loop]
    refine ⟨_, ?_, .single hstep⟩
    refine ⟨?_, ?_, m, rfl, hagrees⟩
    · simp only [Run.tick]
      split
      · rfl
      · rfl
    · simp only [Run.tick]
      split
      · exact hrest
      · exact hinner.append (.loop hinner hrest)

private theorem eq_nil_of_commands {bs : List Block} (h : Leaves Simple bs) (hnil : commands n bs = []) :
    bs = [] := by
  cases h with
  | nil => rfl
  | @plain s rest hs hrest =>
    rw [commands, translateAll_plain] at hnil
    cases s with
    | loopOpen => nomatch hs.1
    | loopClose => nomatch hs.1
    | _ => cases hnil
  | loop =>
    rw [commands, translateAll_loop] at hnil
    cases hnil

/-- The commands of a compiled body end with an output exactly if the machine gives it. -/
theorem halts_iff_yields {body : List Statement} (hbody : Leaves Simple (nest body)) (hlow : 1 ≤ n)
    (hhigh : n < 2 ^ 63) {out : String} :
    Halts n (commands n (nest body)) input out ↔ Machine.Yields ⟨.ofNat n⟩ body input out := by
  have hsize : (UInt64.ofNat n).toNat = n := UInt64.toNat_ofNat_of_lt' (Nat.lt_trans hhigh (by decide))
  have hstart : Simulates input (Machine.start ⟨.ofNat n⟩ body input) (Config.start n (commands n (nest body))) := by
    obtain ⟨t, ht⟩ := Tape.exists_blank (show (UInt64.ofNat n).toNat < 2 ^ 63 by omega)
    obtain ⟨hlength, hpointer, hblank⟩ := Tape.of_blank ht
    have hcells : ∀ i (hi : i < n), (Vector.replicate n (0 : UInt8))[i] = t.cell i := fun i hi => by
      rw [hblank, Vector.getElem_replicate]
    have hinside : t.pointer < t.length := by
      rw [hpointer]
      exact t.length_pos
    have hring : t.length = n := by omega
    exact ⟨rfl, hbody, _, Memory.start_eq_ok_iff.2 ⟨t, ht, rfl⟩, hinside, hring, hcells, hpointer.symm, rfl, rfl⟩
  rw [Machine.yields_iff]
  constructor
  · rintro ⟨⟨code, v⟩, hreach, hcode, rfl⟩
    simp only at hcode
    subst hcode
    obtain ⟨⟨blocks, _, t⟩, ⟨hcode, hleaves, m, rfl, hagrees⟩, heval⟩ :=
      StateTransition.tr_eval_rev respects_step hstart (StateTransition.mem_eval.2 ⟨hreach, rfl⟩)
    obtain rfl := eq_nil_of_commands hleaves hcode.symm
    exact ⟨m, t, (StateTransition.mem_eval.1 heval).1, hagrees.output.symm⟩
  · rintro ⟨m, t, hreach, rfl⟩
    obtain ⟨c, ⟨hcode, -, _, ⟨⟩, hagrees⟩, hc⟩ := StateTransition.tr_reaches respects_step hstart hreach
    exact ⟨c, hc, hcode, hagrees.output⟩

end

/-- The Rust function rendered for a compiled function computes what the reference machine computes: its statements
are read as code that ends with an output exactly if the machine gives that output, on every input. Along the way the
pointer never leaves the tape, and no sum with it goes over 64 bits. -/
theorem rendered_code_computes {o : Options} (hreflow : o.reflow = false) {width : Nat}
    (hindent : o.indent.toList = List.replicate width ' ') (hlow : 1 ≤ o.tapeSize) (hhigh : o.tapeSize < 2 ^ 63)
    {fs : List Function} {f : Function} (hf : f ∈ fs) {s : Source} (hcompile : compile s = .ok f) :
    ∃ text part code, render .rust o fs = .ok text ∧
      (writeLines o.indent (opening .rust o f) ++ part ++ writeLines o.indent (closing .rust)).toList <:+:
        text.toList ∧
      readCommands part = some code ∧
      ∀ input, (∀ out, Halts o.tapeSize code input out ↔ Machine.Yields ⟨.ofNat o.tapeSize⟩ f.body input out) ∧
        ∀ c, Reaches (step input) (Config.start o.tapeSize code) c → c.vars.ptr.toNat < o.tapeSize ∧
          (step input c = none → c.code = []) ∧
          ∀ k rest, c.code = .advance k :: rest → c.vars.ptr.toNat + k < 2 ^ 64 := by
  have hbody := flattenAll_nest_body hcompile
  have hleaves : Leaves Simple (nest f.body) := by
    refine leaves_nest fun s hs hplain => ⟨hplain, ?_⟩
    rintro d rfl
    rw [(body_of_compile hcompile).1] at hs
    exact unit_of_mem_emit hs
  have htext : render .rust o fs = .ok (withHeader o "//" fs (writeLines o.indent (rustModule o fs))) := by
    rw [render_rust, hreflow]
    rfl
  have hinfix := infix_functionLines (fun _ => hreflow) hbody hf htext
  rw [functionLines, writeLines_append, writeLines_append] at hinfix
  have hlexemes := Option.some.inj (lexemesOf_bodyLines .rust hindent (fun h => absurd h (by decide)) hbody)
  have hforest : legend.read .loop ((lexemeLayout .rust o.tapeSize).forest 2 (nest f.body)) =
      some (commands o.tapeSize (nest f.body)) :=
    (knows_rust o.tapeSize).read_forest (hleaves.mono fun _ h => h.1) 2
  have hread : readCommands (writeLines o.indent (bodyLines .rust o.tapeSize f.body)) =
      some (commands o.tapeSize (nest f.body)) :=
    (congrArg (legend.read .loop) hlexemes).trans hforest
  refine ⟨_, _, _, htext, hinfix, hread, fun input => ⟨fun out => halts_iff_yields hleaves hlow hhigh, ?_⟩⟩
  intro c hreach
  have hstart : Safe (Config.start o.tapeSize (commands o.tapeSize (nest f.body))) :=
    ⟨hlow, lt_of_mem_commands hlow hhigh hleaves⟩
  have hsafe := hstart.reaches hhigh hreach
  have hptr := hsafe.pointer
  refine ⟨hptr, hsafe.eq_nil, fun k rest hcode => ?_⟩
  have hk := hsafe.steps k (by simp [hcode, stepsAll, Command.steps])
  omega

/-- The byte is written again after a turn around the end of three cells and back. -/
private theorem yields_around : Machine.Yields ⟨3⟩ (emit (lex ",<[]>.")) [65] "A" := by
  have hnest : nest (emit (lex ",<[]>.")) =
      [.plain .read, .plain (.move (-1)), .loop [], .plain (.move 1), .plain .write] := rfl
  obtain ⟨m, hm⟩ := Memory.exists_start (show (3 : UInt64).toNat < 2 ^ 63 by decide) [65]
  obtain ⟨t, ht, rfl⟩ := Memory.start_eq_ok_iff.1 hm
  obtain ⟨hlength, hpointer, hblank⟩ := Tape.of_blank ht
  have hlength : t.length = 3 := hlength
  let last := (t.set 65).turn (-1)
  let first := last.turn 1
  have hlast : last.pointer = 2 := by
    have := (t.set 65).pointer_turn (-1)
    rw [Tape.pointer_set, Tape.length_set, hlength, hpointer] at this
    exact Int.ofNat.inj this
  have hfirst : first.pointer = 0 := by
    have := last.pointer_turn 1
    rw [hlast, Tape.length_turn, Tape.length_set, hlength] at this
    exact Int.ofNat.inj this
  have hback : (t.set 65).move (-1) = .ok last := by
    refine Tape.move_unit ?_ (.inr rfl)
    rw [Tape.pointer_set, Tape.length_set, hpointer, hlength]
    decide
  have hforth : last.move 1 = .ok first := by
    refine Tape.move_unit ?_ (.inl rfl)
    rw [hlast, Tape.length_turn, Tape.length_set, hlength]
    decide
  have hempty : last.get = 0 := by
    rw [Tape.get, hlast, Tape.cell_turn, Tape.cell_set, hpointer, if_neg (by decide), hblank]
  have hread : first.get = 65 := by
    rw [Tape.get, hfirst, Tape.cell_turn, Tape.cell_turn, Tape.cell_set, hpointer, if_pos rfl]
  refine Machine.yields_iff.2 ⟨⟨first, [], "".push (Char.ofNat first.get.toNat)⟩, 5, ?_, by rw [hread]; rfl⟩
  rw [Machine.start, hnest, hm]
  refine .head (b := ⟨[.plain (.move (-1)), .loop [], .plain (.move 1), .plain .write], .ok ⟨t.set 65, [], ""⟩, 1⟩)
    rfl ?_
  refine .head (b := ⟨[.loop [], .plain (.move 1), .plain .write], .ok ⟨last, [], ""⟩, 2⟩) ?_ ?_
  · rw [Run.next_cons, Run.tick, Memory.apply_move, hback]
    rfl
  refine .head (b := ⟨[.plain (.move 1), .plain .write], .ok ⟨last, [], ""⟩, 3⟩) ?_ ?_
  · rw [Run.next_cons, Run.tick, if_pos hempty]
    rfl
  refine .head (b := ⟨[.plain .write], .ok ⟨first, [], ""⟩, 4⟩) ?_ (.single rfl)
  rw [Run.next_cons, Run.tick, Memory.apply_move, hforth]
  rfl

/-- A byte is read, the pointer goes around the end of three cells to an empty loop and back, and the byte is
written. -/
theorem rendered_code_computes_around :
    ∃ text part code,
      render .rust ⟨"BF", 3, true, false, "    "⟩ [⟨"a", "a.b", "0", emit (lex ",<[]>.")⟩] = .ok text ∧
      part.toList <:+: text.toList ∧ readCommands part = some code ∧ Halts 3 code [65] "A" := by
  have hmatch : matchBrackets (lex ",<[]>.") = .ok ⟨[(2, 3)]⟩ :=
    matchBrackets_eq_ok.2 ⟨[(2, 3)], rfl, List.mergeSort_singleton _⟩
  have hcompile : compile ⟨"a.b", lex ",<[]>.", "0"⟩ = .ok ⟨"a", "a.b", "0", emit (lex ",<[]>.")⟩ := by
    rw [compile, hmatch]
    rfl
  have hindent : "    ".toList = List.replicate 4 ' ' := by decide
  obtain ⟨text, part, code, htext, hinfix, hread, hruns⟩ :=
    rendered_code_computes (o := ⟨"BF", 3, true, false, "    "⟩) rfl hindent (by decide) (by decide)
      (List.mem_singleton_self _) hcompile
  rw [String.toList_append, String.toList_append] at hinfix
  exact ⟨text, part, code, htext, (List.infix_append ..).trans hinfix, hread, ((hruns [65]).1 "A").2 yields_around⟩

end TapeLang.Rust
