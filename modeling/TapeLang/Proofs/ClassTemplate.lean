import TapeLang.Code.Template

/-!
# The blocks of the class template

Read from its file, the template is one condition for the provenance header and, behind it, the nodes of the module
(`nodes?_file`). These nodes do not mention the header, so they write the same text whatever the context says of it
(`writeNodes_congr`). What the blocks write is put together here function by function (`render_eq`).
-/

namespace TapeLang.Code

/-- What comes out of two steps comes out of the second one, from what comes out of the first. -/
theorem bind_eq_ok {ε α β : Type} {x : Except ε α} {g : α → Except ε β} {b : β} :
    (x >>= g) = .ok b ↔ ∃ a, x = .ok a ∧ g a = .ok b := by
  cases x with
  | error e => simp [bind, Except.bind]
  | ok a => simp [bind, Except.bind]

namespace Template

/-! ### Names that are not mentioned -/

/-- The names in an expression. -/
def Expr.names : Expr → List String
  | .name n => [n]
  | .field n _ => [n]
  | .not e => e.names
  | .twice e => e.names
  | .indent e width => e.names ++ width.names

/-- No expression in the nodes mentions `n`. -/
inductive Spares (n : String) : List Node → Prop where
  | nil : Spares n []
  | text {s : String} {rest : List Node} (hrest : Spares n rest) : Spares n (.text s :: rest)
  | print {line : Nat} {e : Expr} {rest : List Node} (he : n ∉ e.names) (hrest : Spares n rest) :
      Spares n (.print line e :: rest)
  | ifTrue {line : Nat} {condition : Expr} {body rest : List Node} (he : n ∉ condition.names) (hbody : Spares n body)
      (hrest : Spares n rest) : Spares n (.ifTrue line condition body :: rest)
  | forEach {line : Nat} {m : String} {items : Expr} {body rest : List Node} (he : n ∉ items.names)
      (hbody : Spares n body) (hrest : Spares n rest) : Spares n (.forEach line m items body :: rest)

/-- Two scopes that differ in the value of `n` at most. -/
def AgreeBut (n : String) (scope scope' : Scope) : Prop := ∀ m, m ≠ n → scope m = scope' m

variable {n : String} {scope scope' : Scope}

theorem AgreeBut.enter (h : AgreeBut n scope scope') (m : String) (v : Value) (first : Bool) :
    AgreeBut n (scope.enter m v first) (scope'.enter m v first) := by
  intro k hk
  simp only [Scope.enter, h k hk]

theorem Expr.eval_congr (h : AgreeBut n scope scope') {e : Expr} (he : n ∉ e.names) (line : Nat) :
    e.eval line scope = e.eval line scope' := by
  induction e with
  | name m =>
    have hm : m ≠ n := fun heq => he (by simp [Expr.names, heq])
    simp only [Expr.eval, h m hm]
  | field m key =>
    have hm : m ≠ n := fun heq => he (by simp [Expr.names, heq])
    simp only [Expr.eval, h m hm]
  | not e ih => simp only [Expr.eval, ih he]
  | twice e ih => simp only [Expr.eval, ih he]
  | indent e width ihText ihWidth =>
    rw [Expr.names, List.mem_append, not_or] at he
    simp only [Expr.eval, ihText he.1, ihWidth he.2]

/-- Nodes that do not mention a name write the same text, and fail in the same way, whatever its value is. -/
theorem writeNodes_congr (h : AgreeBut n scope scope') {nodes : List Node} (hnodes : Spares n nodes) :
    writeNodes scope nodes = writeNodes scope' nodes := by
  induction hnodes generalizing scope scope' with
  | nil => rfl
  | text _ ih => simp only [writeNodes, writeNode, ih h]
  | print he _ ih => simp only [writeNodes, writeNode, Expr.eval_congr h he, ih h]
  | ifTrue he _ _ ihBody ih => simp only [writeNodes, writeNode, Expr.eval_congr h he, ihBody h, ih h]
  | forEach he _ _ ihBody ih =>
    have hbody := fun m v first => ihBody (h.enter m v first)
    simp only [writeNodes, writeNode, Expr.eval_congr h he, hbody, ih h]

/-! ### The nodes of the template -/

/-- The block of the provenance header. -/
def headerNode : Node :=
  .ifTrue 1 (.name "provenance") [.text "",
    .forEach 2 "line" (.name "provenance") [.text "// ", .print 3 (.name "line"), .text "\n"],
    .text "\n"]

/-- What is repeated for each function. -/
def methodNodes : List Node := [
  .text "", .ifTrue 11 (.not (.field "loop" "first")) [.text "\n"],
  .text "  /** Compiled from ", .print 14 (.field "function" "source"),
  .text " */\n  static ", .print 15 (.field "function" "name"),
  .text ("(input: string = \"\"): string \x7b\n    const tape = new Uint8Array(TAPE_SIZE);\n    let ptr = 0;\n" ++
    "    let inputPos = 0;\n    let output = \"\";\n"),
  .forEach 20 "line" (.field "function" "lines") [.text "",
    .print 21 (.indent (.field "line" "text") (.twice (.field "line" "depth"))), .text "\n"],
  .text "    return output;\n  \x7d\n"]

/-- What is behind the header. -/
def moduleNodes : List Node := [
  .text "export const TAPE_SIZE = ", .print 7 (.name "tape_size"),
  .text ";\n\nexport class ", .print 9 (.name "container"), .text " \x7b\n",
  .forEach 10 "function" (.name "functions") methodNodes,
  .text "\x7d\n"]

/-- The pieces of the template with their lines, without the white space around block tags. -/
private theorem trimmed_file :
    trimmed false (numbered 1 file) = [
      (1, .ifTag (.name "provenance")), (1, .text ""),
      (2, .forTag "line" (.name "provenance")), (2, .text "// "), (3, .print (.name "line")), (3, .text "\n"),
      (4, .endFor), (4, .text "\n"), (6, .endIf),
      (6, .text "export const TAPE_SIZE = "), (7, .print (.name "tape_size")),
      (7, .text ";\n\nexport class "), (9, .print (.name "container")), (9, .text " \x7b\n"),
      (10, .forTag "function" (.name "functions")), (10, .text ""),
      (11, .ifTag (.not (.field "loop" "first"))), (11, .text "\n"), (13, .endIf),
      (13, .text "  /** Compiled from "), (14, .print (.field "function" "source")),
      (14, .text " */\n  static "), (15, .print (.field "function" "name")),
      (15, .text (
        "(input: string = \"\"): string \x7b\n    const tape = new Uint8Array(TAPE_SIZE);\n    let ptr = 0;\n" ++
        "    let inputPos = 0;\n    let output = \"\";\n")),
      (20, .forTag "line" (.field "function" "lines")), (20, .text ""),
      (21, .print (.indent (.field "line" "text") (.twice (.field "line" "depth")))), (21, .text "\n"), (22, .endFor),
      (22, .text "    return output;\n  \x7d\n"), (25, .endFor),
      (25, .text "\x7d\n")] := by
  decide +kernel

/-- The blocks of the template: the one of the header, and what is behind it. -/
theorem nodes?_file : nodes? file = some (headerNode :: moduleNodes) := by
  rw [nodes?, trimmed_file]
  rfl

theorem spares_moduleNodes : Spares "provenance" moduleNodes :=
  .text <| .print (by decide) <| .text <| .print (by decide) <| .text <|
    .forEach (by decide)
      (.text <| .ifTrue (by decide) (.text .nil) <| .text <| .print (by decide) <| .text <| .print (by decide) <|
        .text <| .forEach (by decide) (.text <| .print (by decide) <| .text .nil) <| .text .nil) <|
    .text .nil

/-! ### The text of a module -/

/-- One line of a function body, indented twice its depth. -/
def bodyLine (v : Value) : Except TemplateError String :=
  match Value.twice? (v.field? "depth") with
  | none => .error (.notMultiplied (Value.kind (v.field? "depth")) 21)
  | some width =>
    match v.field? "text" with
    | some (.text s) =>
      match width.count? with
      | some n => .ok (indentText n s ++ "\n")
      | none => .error (.notCount (Value.kind (some width)) 21)
    | _ => .error (.notText 21)

/-- One function as a static method. -/
def method (v : Value) : Except TemplateError String := do
  let body ← concat bodyLine (← itemsAt 20 (v.field? "lines"))
  return "  /** Compiled from " ++ Value.written (v.field? "source") ++ " */\n" ++
    "  static " ++ Value.written (v.field? "name") ++ "(input: string = \"\"): string \x7b\n" ++
    "    const tape = new Uint8Array(TAPE_SIZE);\n" ++
    "    let ptr = 0;\n" ++
    "    let inputPos = 0;\n" ++
    "    let output = \"\";\n" ++
    body ++
    "    return output;\n" ++
    "  \x7d\n"

/-- The methods of a class, separated by empty lines. -/
def methods : List Value → Except TemplateError String
  | [] => .ok ""
  | v :: rest => do return (← method v) ++ (← concat (fun w => do return "\n" ++ (← method w)) rest)

/-- The comment lines of the provenance header and an empty line, if the context has a header. -/
def header (context : Value) : Except TemplateError String :=
  let lines := context.field? "provenance"
  if Value.isTrue lines then do
    let items ← itemsAt 2 lines
    return (← concat (fun v => .ok ("// " ++ Value.written (some v) ++ "\n")) items) ++ "\n"
  else .ok ""

variable {scope : Scope} {rest : List Node}

theorem writeNodes_cons {node : Node} {text : String} (hnode : writeNode scope node = .ok text) :
    writeNodes scope (node :: rest) = (writeNodes scope rest).map (text ++ ·) := by
  cases h : writeNodes scope rest <;> simp [writeNodes, hnode, h, bind, Except.bind, Except.map, pure, Except.pure]

theorem writeNodes_text (s : String) :
    writeNodes scope (.text s :: rest) = (writeNodes scope rest).map (s ++ ·) :=
  writeNodes_cons (by simp only [writeNode])

theorem writeNodes_print {line : Nat} {e : Expr} {v : Option Value} (he : e.eval line scope = .ok v) :
    writeNodes scope (.print line e :: rest) = (writeNodes scope rest).map (Value.written v ++ ·) :=
  writeNodes_cons (by simp only [writeNode, he]; rfl)

/-- A loop writes the text of each round, and then what is behind it. -/
theorem writeNodes_forEach {line : Nat} {n : String} {items : Expr} {body : List Node} {v : Option Value}
    {f : Bool → Value → Except TemplateError String} (hitems : items.eval line scope = .ok v)
    (hround : ∀ first w, writeNodes (scope.enter n w first) body = f first w) :
    writeNodes scope (.forEach line n items body :: rest) = do
      let text ← rounds f (← itemsAt line v)
      return text ++ (← writeNodes scope rest) := by
  have hf : (fun first w => writeNodes (scope.enter n w first) body) = f := funext fun first => funext (hround first)
  simp only [writeNodes, writeNode, hitems, hf, bind, Except.bind]
  cases itemsAt line v <;> rfl

theorem rounds_eq_concat {f : Bool → Value → Except TemplateError String} {g : Value → Except TemplateError String}
    (h : ∀ first v, f first v = g v) (vs : List Value) : rounds f vs = concat g vs := by
  have hf : ∀ first, f first = g := fun first => funext (h first)
  cases vs with
  | nil => rfl
  | cons v vs => simp only [rounds, concat, hf]

/-- The line that a loop writes for each line of a body. -/
private theorem writeNodes_line (v : Value) (first : Bool) :
    writeNodes (scope.enter "line" v first) [.text "",
      .print 21 (.indent (.field "line" "text") (.twice (.field "line" "depth"))), .text "\n"] = bodyLine v := by
  have hscope : scope.enter "line" v first "line" = some v := if_pos rfl
  simp only [writeNodes, writeNode, Expr.eval, hscope, Option.bind_some, bodyLine, bind, Except.bind, pure, Except.pure,
    throw, throwThe, MonadExceptOf.throw]
  cases Value.twice? (v.field? "depth") with
  | none => rfl
  | some width =>
    rcases v.field? "text" with _ | text
    · rfl
    cases text with
    | text s =>
      simp only [Option.bind_some]
      cases width.count? with
      | none => rfl
      | some n => simp [Value.written]
    | _ => rfl

/-- What is written for a function: its method, and an empty line before it unless it is the first one. -/
private theorem writeNodes_methodNodes (v : Value) (first : Bool) :
    writeNodes (scope.enter "function" v first) methodNodes =
      (method v).map ((if first then "" else "\n") ++ ·) := by
  have hcondition : writeNode (scope.enter "function" v first)
      (.ifTrue 11 (.not (.field "loop" "first")) [.text "\n"]) = .ok (if first then "" else "\n") := by
    cases first <;> rfl
  have hfield : ∀ line key, (Expr.field "function" key).eval line (scope.enter "function" v first) =
      .ok (v.field? key) := fun line key => rfl
  have hlines : ∀ items, rounds (fun _ w => bodyLine w) items = concat bodyLine items :=
    rounds_eq_concat fun _ _ => rfl
  rw [methodNodes, writeNodes_text, writeNodes_cons hcondition, writeNodes_text, writeNodes_print (hfield ..),
    writeNodes_text, writeNodes_print (hfield ..), writeNodes_text,
    writeNodes_forEach (hfield ..) fun round w => writeNodes_line w round, writeNodes_text]
  simp only [hlines, method, bind, Except.bind]
  cases itemsAt 20 (v.field? "lines") with
  | error e => rfl
  | ok items =>
    dsimp only
    cases concat bodyLine items with
    | error e => rfl
    | ok body => simp [writeNodes, Except.map, pure, Except.pure, String.append_assoc]

private theorem rounds_methods (vs : List Value) :
    rounds (fun first v => (method v).map ((if first then "" else "\n") ++ ·)) vs = methods vs := by
  cases vs with
  | nil => rfl
  | cons v vs =>
    have hfirst : (method v).map ("" ++ ·) = method v := by cases method v <;> simp [Except.map]
    have hrest : (fun w => (method w).map ("\n" ++ ·)) = fun w => do return "\n" ++ (← method w) := by
      funext w
      cases method w <;> rfl
    simp only [rounds, methods, if_true, Bool.false_eq_true, if_false, hfirst, hrest]

/-- What is behind the header: the size of the tape and the class with its methods. -/
theorem writeNodes_moduleNodes (context : Value) :
    writeNodes (.ofContext context) moduleNodes =
      (itemsAt 10 (context.field? "functions") >>= methods).map fun body =>
        "export const TAPE_SIZE = " ++ Value.written (context.field? "tape_size") ++ ";\n" ++
          "\n" ++
          "export class " ++ Value.written (context.field? "container") ++ " \x7b\n" ++
          body ++
          "\x7d\n" := by
  have hname : ∀ line n, (Expr.name n).eval line (.ofContext context) = .ok (context.field? n) := fun line n => rfl
  rw [moduleNodes, writeNodes_text, writeNodes_print (hname ..), writeNodes_text, writeNodes_print (hname ..),
    writeNodes_text, writeNodes_forEach (hname ..) fun first v => writeNodes_methodNodes v first, writeNodes_text]
  simp only [rounds_methods, bind, Except.bind]
  cases itemsAt 10 (context.field? "functions") with
  | error e => rfl
  | ok items =>
    dsimp only
    cases methods items with
    | error e => rfl
    | ok body => simp [writeNodes, Except.map, pure, Except.pure, String.append_assoc]

/-- What the block of the header writes. -/
theorem writeNode_headerNode (context : Value) : writeNode (.ofContext context) headerNode = header context := by
  have hname : ∀ line n, (Expr.name n).eval line (.ofContext context) = .ok (context.field? n) := fun line n => rfl
  have hline : ∀ first v, writeNodes ((Scope.ofContext context).enter "line" v first)
      [.text "// ", .print 3 (.name "line"), .text "\n"] = .ok ("// " ++ Value.written (some v) ++ "\n") := by
    intro first v
    rw [writeNodes_text, writeNodes_print (v := some v) rfl, writeNodes_text]
    simp [writeNodes, Except.map, String.append_assoc]
  have hrounds : ∀ items, rounds (fun _ v => .ok ("// " ++ Value.written (some v) ++ "\n")) items =
      concat (fun v => .ok ("// " ++ Value.written (some v) ++ "\n")) items := rounds_eq_concat fun _ _ => rfl
  simp only [headerNode, writeNode, header, hname, bind, Except.bind]
  by_cases htrue : Value.isTrue (context.field? "provenance") = true
  · rw [if_pos htrue, if_pos htrue, writeNodes_text, writeNodes_forEach (hname ..) hline, writeNodes_text]
    simp only [hrounds, bind, Except.bind]
    cases itemsAt 2 (context.field? "provenance") with
    | error e => rfl
    | ok items =>
      dsimp only
      cases concat (fun v => .ok ("// " ++ Value.written (some v) ++ "\n")) items with
      | error e => rfl
      | ok lines => simp [writeNodes, Except.map, pure, Except.pure]
  · rw [if_neg htrue, if_neg htrue]
    rfl

/-- The module is the header and what is behind it. -/
theorem render_eq_bind (context : Value) :
    render context = do return (← header context) ++ (← writeNodes (.ofContext context) moduleNodes) := by
  rw [render, nodes?_file, Option.getD_some, writeNodes, writeNode_headerNode]

/-- The module that a context describes, function by function. -/
theorem render_eq (context : Value) :
    render context = do
      let top ← header context
      let body ← methods (← itemsAt 10 (context.field? "functions"))
      return top ++
        "export const TAPE_SIZE = " ++ Value.written (context.field? "tape_size") ++ ";\n" ++
        "\n" ++
        "export class " ++ Value.written (context.field? "container") ++ " \x7b\n" ++
        body ++
        "\x7d\n" := by
  rw [render_eq_bind, writeNodes_moduleNodes]
  simp only [bind, Except.bind]
  cases header context with
  | error e => rfl
  | ok top =>
    dsimp only
    cases itemsAt 10 (context.field? "functions") with
    | error e => rfl
    | ok items =>
      dsimp only
      cases methods items with
      | error e => rfl
      | ok body => simp [Except.map, pure, Except.pure, String.append_assoc]

end Template

end TapeLang.Code
