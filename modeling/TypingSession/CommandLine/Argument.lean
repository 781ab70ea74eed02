/-!
# TypingSession — command line arguments

An argument is a word, an option by its long name, a cluster of options by their
letters, or the mark after which every argument is a word.
-/

namespace TypingSession

/-- An argument by its form. -/
inductive Argument where
  /-- The mark `--`. -/
  | wordsOnly
  /-- An option by its long name, with the value after an equals sign, if any. -/
  | long (name : List Char) (value : Option (List Char))
  /-- Options by their letters. -/
  | short (first : Char) (more : List Char)
  /-- A word; a lone dash is one. -/
  | word (s : String)
deriving DecidableEq, Repr

namespace Argument

/-- The form of an argument. -/
def ofString (s : String) : Argument :=
  match s.toList with
  | ['-', '-'] => wordsOnly
  | '-' :: '-' :: rest =>
    long (rest.takeWhile (· != '=')) <|
      match rest.dropWhile (· != '=') with
      | [] => none
      | _ :: value => some value
  | '-' :: c :: rest => short c rest
  | _ => word s

/-- Arguments by their forms; behind the mark all are words. -/
def ofList : List String → List Argument
  | [] => []
  | s :: rest =>
    match ofString s with
    | wordsOnly => wordsOnly :: rest.map word
    | a => a :: ofList rest

end Argument

end TypingSession
