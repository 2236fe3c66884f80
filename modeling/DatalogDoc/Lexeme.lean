import DatalogDoc.Text

/-!
# Lexemes of a definition text

Comments and string literals hide the braces inside them. Every text falls into lexemes, and the
texts of the lexemes make up the whole of it again; one that lacks its end is a lexeme too.
-/

namespace DatalogDoc

inductive Lexeme
  | blockComment (interior : Text)
  /-- A line comment; `ended` tells whether a newline closes it or the text just stops. -/
  | lineComment (interior : Text) (ended : Bool)
  | quoted (interior : Text)
  /-- A character outside comments and strings. -/
  | code (c : Char)
  /-- A block comment without a closer, up to the end of the text. -/
  | openComment (interior : Text)
  /-- A string literal broken by the newline that its interior ends with, or by the end of the text. -/
  | openString (interior : Text)
deriving DecidableEq

namespace Lexeme

def text : Lexeme → Text
  | blockComment interior => '/' :: '*' :: interior ++ ['*', '/']
  | lineComment interior true => '/' :: '/' :: interior ++ ['\n']
  | lineComment interior false => '/' :: '/' :: interior
  | quoted interior => '"' :: interior ++ ['"']
  | code c => [c]
  | openComment interior => '/' :: '*' :: interior
  | openString interior => '"' :: interior

/-- Reads a string literal after its opening quote: the interior, whether a quote closes it, and
what follows. A backslash takes the next character with it, whatever it is. -/
def readString : Text → Text × Bool × Text
  | [] => ([], false, [])
  | '"' :: t => ([], true, t)
  | '\n' :: t => (['\n'], false, t)
  | '\\' :: c :: t =>
    let (interior, closed, rest) := readString t
    ('\\' :: c :: interior, closed, rest)
  | c :: t =>
    let (interior, closed, rest) := readString t
    (c :: interior, closed, rest)

theorem readString_text (t : Text) :
    (readString t).1 ++ (if (readString t).2.1 then ['"'] else []) ++ (readString t).2.2 = t := by
  fun_induction readString t <;> simp_all

theorem length_readString_le (t : Text) : (readString t).2.2.length ≤ t.length := by
  have h := congrArg List.length (readString_text t)
  simp only [List.length_append] at h
  omega

def commentEnd : Mark := Mark.word ['*', '/']

theorem consuming_commentEnd : commentEnd.Consuming := Mark.consuming_word (by simp)

def lineEnd : Mark := Mark.word ['\n']

theorem consuming_lineEnd : lineEnd.Consuming := Mark.consuming_word (by simp)

def lexemes : Text → List Lexeme
  | [] => []
  | '/' :: '*' :: t =>
    match _ : commentEnd.seek t with
    | some (interior, rest) => blockComment interior :: lexemes rest
    | none => [openComment t]
  | '/' :: '/' :: t =>
    match _ : lineEnd.seek t with
    | some (interior, rest) => lineComment interior true :: lexemes rest
    | none => [lineComment t false]
  | '"' :: t =>
    match _ : readString t with
    | (interior, true, rest) => quoted interior :: lexemes rest
    | (interior, false, rest) => openString interior :: lexemes rest
  | c :: t => code c :: lexemes t
termination_by t => t.length
decreasing_by
  all_goals simp only [List.length_cons]
  · have := Mark.length_lt_of_seek consuming_commentEnd (by assumption)
    omega
  · have := Mark.length_lt_of_seek consuming_lineEnd (by assumption)
    omega
  · rename_i h
    have := length_readString_le t
    simp only [h] at this
    omega
  · rename_i h
    have := length_readString_le t
    simp only [h] at this
    omega
  · omega

end Lexeme

end DatalogDoc
