/-!
# Quoted texts and identifiers

Splitting at a character, doubling a character, and reading what is between quotes. A qualified name
is quoted part by part at its dots. Inside the quotes the closing character is written twice, and a
part that is a lone asterisk is never quoted.
-/
namespace SqlBatch

/-- The pieces between the occurrences of a character; there is one piece more than there are
occurrences. -/
def pieces (separator : Char) : List Char → List (List Char)
  | [] => [[]]
  | c :: rest =>
    if c = separator then [] :: pieces separator rest
    else match pieces separator rest with
      | [] => [[c]]
      | piece :: others => (c :: piece) :: others

/-- Writes every occurrence of one character twice. -/
def doubled (c : Char) : List Char → List Char
  | [] => []
  | d :: rest => if d = c then c :: c :: doubled c rest else d :: doubled c rest

/-- Reads on behind the character that opens a quote: what the quote holds, where its closing
character stands twice for once, and the text behind it. -/
def readQuoted (closing : Char) : List Char → Option (List Char × List Char)
  | [] => none
  | [c] => if c = closing then some ([], []) else none
  | c :: d :: rest =>
    if c ≠ closing then (readQuoted closing (d :: rest)).map fun (body, behind) => (c :: body, behind)
    else if d = closing then (readQuoted closing rest).map fun (body, behind) => (c :: body, behind)
    else some ([], d :: rest)

/-! ### Identifiers -/

structure QuotePair where
  opening : Char
  closing : Char
  deriving DecidableEq

namespace Identifier

def quotePart (q : QuotePair) (part : List Char) : List Char :=
  if part = ['*'] then part else q.opening :: doubled q.closing part ++ [q.closing]

def quoteChars (q : QuotePair) (name : List Char) : List Char :=
  List.intercalate ['.'] ((pieces '.' name).map (quotePart q))

/-- Without quotes a name is written as it is. -/
def quote : Option QuotePair → String → String
  | none, name => name
  | some q, name => String.ofList (quoteChars q name.toList)

end Identifier
end SqlBatch
