import TapeLang.Code.Dialect

/-!
# The six vocabularies

The dialect of each target and the words that a function may not be named with there.
-/

namespace TapeLang.Code

/-- A statement that is written on one line. -/
def oneLine (text : String) : List Line := [⟨0, text⟩]

def rustDialect : Dialect where
  increment := oneLine "tape[ptr] = tape[ptr].wrapping_add(1);"
  decrement := oneLine "tape[ptr] = tape[ptr].wrapping_sub(1);"
  move step := oneLine s!"ptr = (ptr + {step}) % TAPE_SIZE;"
  write := oneLine "output.push(char::from(tape[ptr]));"
  read := linesAt 0 ["tape[ptr] = input.get(input_pos).copied().unwrap_or(0);", "input_pos += 1;"]
  enter := ["while tape[ptr] != 0 \x7b"]
  leave := ["\x7d"]
  idle := []

def csharpDialect : Dialect where
  increment := oneLine "tape[ptr]++;"
  decrement := oneLine "tape[ptr]--;"
  move step := oneLine s!"ptr = (ptr + {step}) % TapeSize;"
  write := oneLine "output.Append((char)tape[ptr]);"
  read := linesAt 0 ["tape[ptr] = inputPos < input.Length ? (byte)input[inputPos] : (byte)0;", "inputPos++;"]
  enter := ["while (tape[ptr] != 0)", "\x7b"]
  leave := ["\x7d"]
  idle := []

def pythonDialect : Dialect where
  increment := oneLine "tape[ptr] = (tape[ptr] + 1) % 256"
  decrement := oneLine "tape[ptr] = (tape[ptr] - 1) % 256"
  move step := oneLine s!"ptr = (ptr + {step}) % TAPE_SIZE"
  write := oneLine "output.append(chr(tape[ptr]))"
  read := linesAt 0
    ["tape[ptr] = ord(input[input_pos]) % 256 if input_pos < len(input) else 0", "input_pos += 1"]
  enter := ["while tape[ptr] != 0:"]
  leave := []
  idle := ["pass"]

def typescriptDialect : Dialect where
  increment := oneLine "tape[ptr]++;"
  decrement := oneLine "tape[ptr]--;"
  move step := oneLine s!"ptr = (ptr + {step}) % TAPE_SIZE;"
  write := oneLine "output += String.fromCharCode(tape[ptr]);"
  read := linesAt 0
    ["tape[ptr] = inputPos < input.length ? input.charCodeAt(inputPos) & 0xff : 0;", "inputPos++;"]
  enter := ["while (tape[ptr] !== 0) \x7b"]
  leave := ["\x7d"]
  idle := []

def goDialect : Dialect where
  increment := oneLine "tape[ptr]++"
  decrement := oneLine "tape[ptr]--"
  move step := oneLine s!"ptr = (ptr + {step}) % TapeSize"
  write := oneLine "output.WriteRune(rune(tape[ptr]))"
  read := [⟨0, "if inputPos < len(input) \x7b"⟩, ⟨1, "tape[ptr] = input[inputPos]"⟩, ⟨0, "\x7d else \x7b"⟩,
    ⟨1, "tape[ptr] = 0"⟩, ⟨0, "\x7d"⟩, ⟨0, "inputPos++"⟩]
  enter := ["for tape[ptr] != 0 \x7b"]
  leave := ["\x7d"]
  idle := []

def javaDialect : Dialect where
  increment := oneLine "tape[ptr] = (tape[ptr] + 1) & 0xFF;"
  decrement := oneLine "tape[ptr] = (tape[ptr] - 1) & 0xFF;"
  move step := oneLine s!"ptr = (ptr + {step}) % TAPE_SIZE;"
  write := oneLine "output.append((char) tape[ptr]);"
  read := linesAt 0
    ["tape[ptr] = inputPos < input.length() ? input.charAt(inputPos) & 0xFF : 0;", "inputPos++;"]
  enter := ["while (tape[ptr] != 0) \x7b"]
  leave := ["\x7d"]
  idle := []

def rustKeywords : List String := [
  "as", "async", "await", "break", "const", "continue", "crate", "dyn", "else", "enum",
  "extern", "false", "fn", "for", "gen", "if", "impl", "in", "let", "loop", "match", "mod",
  "move", "mut", "pub", "ref", "return", "self", "static", "struct", "super", "trait",
  "true", "try", "type", "unsafe", "use", "where", "while", "abstract", "become", "box",
  "do", "final", "macro", "override", "priv", "typeof", "unsized", "virtual", "yield"]

def pythonKeywords : List String := [
  "False", "None", "True", "and", "as", "assert", "async", "await", "break", "class",
  "continue", "def", "del", "elif", "else", "except", "finally", "for", "from", "global",
  "if", "import", "in", "is", "lambda", "nonlocal", "not", "or", "pass", "raise", "return",
  "try", "while", "with", "yield", "match", "case", "type"]

/-- Static members may not shadow these properties of a class. -/
def typescriptReserved : List String :=
  ["name", "length", "caller", "arguments", "prototype", "constructor"]

def javaKeywords : List String := [
  "abstract", "assert", "boolean", "break", "byte", "case", "catch", "char", "class",
  "const", "continue", "default", "do", "double", "else", "enum", "extends", "final",
  "finally", "float", "for", "goto", "if", "implements", "import", "instanceof", "int",
  "interface", "long", "native", "new", "package", "private", "protected", "public",
  "return", "short", "static", "strictfp", "super", "switch", "synchronized", "this",
  "throw", "throws", "transient", "try", "void", "volatile", "while", "true", "false",
  "null", "var", "yield", "record"]

/-- A name with an underscore behind it if it is one of `words`. -/
def escapeWord (words : List String) (name : String) : String :=
  if words.contains name then name ++ "_" else name

end TapeLang.Code
