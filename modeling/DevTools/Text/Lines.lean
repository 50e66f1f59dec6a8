import DevTools.Text.Blank

namespace DevTools.Text

/-- The characters that end a line. A carriage return takes a following line feed along. -/
def isLineEnd (c : Char) : Bool :=
  [0xa, 0xb, 0xc, 0xd, 0x1c, 0x1d, 0x1e, 0x85, 0x2028, 0x2029].contains c.toNat

def lines : List Char → List (List Char)
  | [] => []
  | '\x0d' :: '\x0a' :: rest => ['\x0d', '\x0a'] :: lines rest
  | c :: rest =>
    if isLineEnd c then [c] :: lines rest
    else
      match lines rest with
      | [] => [[c]]
      | line :: more => (c :: line) :: more

theorem flatten_lines (text : List Char) : (lines text).flatten = text := by
  fun_induction lines text with
  | case1 => rfl
  | case2 rest ih => simp [ih]
  | case3 c rest _ h ih => simp [ih]
  | case4 c rest _ h hnil ih => simpa [hnil] using ih
  | case5 c rest _ h line more hcons ih => simpa [hcons] using ih

def indentLine (width : Nat) (line : List Char) : List Char :=
  if line.all isBlank then line else List.replicate width ' ' ++ line

def indentChars (width : Nat) (text : List Char) : List Char :=
  ((lines text).map (indentLine width)).flatten

def indent (width : Nat) (text : String) : String :=
  String.ofList (indentChars width text.toList)

/-! ## Common margin -/

def isMargin (c : Char) : Bool :=
  c = ' ' || c = '\t'

def commonStart : List Char → List Char → List Char
  | a :: as, b :: bs => if a = b then a :: commonStart as bs else []
  | _, _ => []

def margin (rows : List (List Char)) : List Char :=
  match (rows.filter fun row => !row.all isMargin).map (·.takeWhile isMargin) with
  | [] => []
  | first :: rest => rest.foldl commonStart first

def dedent (text : String) : String :=
  let rows := (text.toList.splitOn '\n').map fun row => if row.all isMargin then [] else row
  let width := (margin rows).length
  String.ofList (List.intercalate ['\n'] (rows.map fun row => row.drop width))

end DevTools.Text
