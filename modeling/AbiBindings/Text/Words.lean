import AbiBindings.Text.Alphanumeric
import AbiBindings.Text.LetterCase
import AbiBindings.Text.Split

namespace AbiBindings.Text

/-- The case last shown by the word at hand. -/
inductive Phase where
  | fresh
  | lower
  | upper
  deriving DecidableEq, Repr

/-- Digits and caseless letters leave the phase as it is. -/
def Phase.after (phase : Phase) (c : Char) : Phase :=
  if isLowercase c then .lower else if isUppercase c then .upper else phase

/-- Words of one run of letters and numbers; `word` is the word at hand, last character first.
A word ends before a capital that follows a small letter, and before the last capital of a row
of capitals when a small letter follows it. -/
def splitRun : Phase → List Char → List Char → List (List Char)
  | _, _, [] => []
  | _, word, [c] => [(c :: word).reverse]
  | phase, word, c :: next :: rest =>
    if phase.after c = .lower ∧ isUppercase next then
      (c :: word).reverse :: splitRun .fresh [] (next :: rest)
    else if phase = .upper ∧ isUppercase c ∧ isLowercase next then
      word.reverse :: splitRun .fresh [c] (next :: rest)
    else splitRun (phase.after c) (c :: word) (next :: rest)

/-- Everything that is neither a letter nor a number separates words. -/
def words (cs : List Char) : List (List Char) :=
  (splitWhere (fun c => !isAlphanumeric c) cs).flatMap (splitRun .fresh [])

/-- A capital sigma at the end of a word takes its final form. -/
def lowercaseWord : List Char → List Char
  | [] => []
  | [c] => if c = 'Σ' then ['ς'] else lowercase c
  | c :: cs => lowercase c ++ lowercaseWord cs

def capitalizeWord : List Char → List Char
  | [] => []
  | c :: cs => uppercase c ++ lowercaseWord cs

def snakeCase (s : String) : String :=
  String.ofList (['_'].intercalate ((words s.toList).map lowercaseWord))

def upperCamelCase (s : String) : String :=
  String.ofList ((words s.toList).flatMap capitalizeWord)

end AbiBindings.Text
