-- JSON laid out over several lines, each level of nesting two spaces further in.

namespace SellerDirectory.Json

def newLine (depth : Nat) : List Char :=
  '\n' :: List.replicate (2 * depth) ' '

def closesAtOnce : List Char → Bool
  | ']' :: _ | '\x7d' :: _ => true
  | _ => false

mutual

-- Lays out the text of a value that was written without white space.
def layOut (depth : Nat) : List Char → List Char
  | [] => []
  | c :: rest =>
    if c = '"' then c :: layOutText depth rest
    else if c = '[' || c = '\x7b' then
      if closesAtOnce rest then c :: layOutEnd depth rest
      else c :: newLine (depth + 1) ++ layOut (depth + 1) rest
    else if c = ']' || c = '\x7d' then newLine (depth - 1) ++ c :: layOut (depth - 1) rest
    else if c = ',' then c :: newLine depth ++ layOut depth rest
    else if c = ':' then c :: ' ' :: layOut depth rest
    else c :: layOut depth rest

-- The end of an empty array or object stands behind its beginning.
def layOutEnd (depth : Nat) : List Char → List Char
  | [] => []
  | c :: rest => c :: layOut depth rest

def layOutText (depth : Nat) : List Char → List Char
  | [] => []
  | '\\' :: c :: rest => '\\' :: c :: layOutText depth rest
  | c :: rest => if c = '"' then c :: layOut depth rest else c :: layOutText depth rest

end

def pretty (compact : String) : String :=
  String.ofList (layOut 0 compact.toList)

end SellerDirectory.Json
