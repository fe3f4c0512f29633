/-
Paths as text, with `/` between the components.

A path keeps the text it was given; what it means are its components. Empty
pieces between separators mean nothing, nor does a `.` unless a relative path
begins with it. The operations cut and join the text, so that a message can show
a path as it was given, and order compares components.

The text is Unicode. A system may also hold names whose bytes are not UTF-8, and an
audit would take them as they are; such paths are left out here and in all that is
proved about paths.

* `Path.join` — an absolute path stands for itself below any base.
* `Path.parent?`, `Path.name?` — what is left without the last component, and the
  last component if it is a name.
* `Path.withoutHere` — a relative path without the `.` it begins with.
* `Path.order` — the key by which paths are listed.
-/

namespace KeyAudit

/-- A path, as it was given. -/
structure Path where
  text : String
  deriving DecidableEq, Repr

namespace Path

/-- What a path is made of. -/
inductive Component where
  /-- The root of all directories, with which an absolute path begins. -/
  | root
  /-- The `.` with which a relative path begins. -/
  | here
  /-- The directory above. -/
  | up
  /-- An entry of a directory. -/
  | name (chars : List Char)
  deriving DecidableEq, Repr

/-! ### Pieces between separators -/

/-- The pieces of a text between its separators. -/
def pieces : List Char → List (List Char)
  | [] => [[]]
  | c :: s =>
    if c = '/' then [] :: pieces s
    else match pieces s with
      | [] => [[c]]
      | p :: ps => (c :: p) :: ps

/-- Pieces with a separator between each and the next. -/
def joinPieces : List (List Char) → List Char
  | [] => []
  | [p] => p
  | p :: q :: ps => p ++ '/' :: joinPieces (q :: ps)

theorem pieces_ne_nil (s : List Char) : pieces s ≠ [] := by
  cases s with
  | nil => simp [pieces]
  | cons c s =>
    simp only [pieces]
    split
    · simp
    · split <;> simp

/-- Cutting a text at its separators loses nothing. -/
theorem joinPieces_pieces (s : List Char) : joinPieces (pieces s) = s := by
  induction s with
  | nil => rfl
  | cons c s ih =>
    simp only [pieces]
    split
    · rename_i h
      cases hp : pieces s with
      | nil => exact absurd hp (pieces_ne_nil s)
      | cons p ps => rw [joinPieces, ← hp, ih]; simp [h]
    · cases hp : pieces s with
      | nil => exact absurd hp (pieces_ne_nil s)
      | cons p ps =>
        rw [hp] at ih
        cases ps with
        | nil => simpa [joinPieces] using ih
        | cons q ps => simpa [joinPieces] using ih

/-- A piece that names no component: nothing, or a `.`. -/
def isIdle (piece : List Char) : Bool := piece == [] || piece == ['.']

/-- The component that a piece stands for. -/
def component? (piece : List Char) : Option Component :=
  if isIdle piece then none
  else if piece = ['.', '.'] then some .up
  else some (.name piece)

/-! ### Components -/

/-- What a path begins with beside its pieces. -/
inductive Start where
  | root | here | plain
  deriving DecidableEq, Repr

/-- The text of a start. -/
def Start.chars : Start → List Char
  | .root => ['/']
  | .here => ['.']
  | .plain => []

def Start.components : Start → List Component
  | .root => [.root]
  | .here => [.here]
  | .plain => []

/-- The start of a text, and the text after it. -/
def start : List Char → Start × List Char
  | '/' :: s => (.root, s)
  | ['.'] => (.here, [])
  | '.' :: '/' :: s => (.here, '/' :: s)
  | s => (.plain, s)

def chars (p : Path) : List Char := p.text.toList

def ofChars (s : List Char) : Path := ⟨String.ofList s⟩

@[simp] theorem chars_ofChars (s : List Char) : (ofChars s).chars = s := by
  simp [chars, ofChars]

def isAbsolute (p : Path) : Bool := p.chars.head? == some '/'

def components (p : Path) : List Component :=
  (start p.chars).1.components ++ (pieces (start p.chars).2).filterMap component?

/-! ### Joining and cutting -/

/-- The path `q`, taken below `p`. -/
def join (p q : Path) : Path :=
  if q.isAbsolute then q
  else if p.chars.isEmpty || p.chars.getLast? == some '/' then ofChars (p.chars ++ q.chars)
  else ofChars (p.chars ++ '/' :: q.chars)

/-- The entry `name` of the directory `p`. -/
def child (p : Path) (name : String) : Path := p.join ⟨name⟩

/-- Pieces without the idle ones at the end. -/
def trimPieces (ps : List (List Char)) : List (List Char) :=
  (ps.reverse.dropWhile isIdle).reverse

/-- The pieces of a text that has no start, up to its last component and
without it. -/
def lastPiece? (s : List Char) : Option (List (List Char) × List Char) :=
  match (pieces s).reverse.dropWhile isIdle with
  | [] => none
  | p :: ps => some (ps.reverse, p)

/-- The path without its last component; a root and an empty path have none. -/
def parent? (p : Path) : Option Path :=
  match start p.chars, lastPiece? (start p.chars).2 with
  | (s, _), some (ps, _) => some (ofChars (s.chars ++ joinPieces (trimPieces ps)))
  | (.here, _), none => some (ofChars [])
  | _, none => none

/-- The last component, if it is a name. -/
def name? (p : Path) : Option String :=
  match lastPiece? (start p.chars).2 with
  | some (_, piece) => if piece = ['.', '.'] then none else some (String.ofList piece)
  | none => none

/-- The path without the `.` it begins with: the rest from its first component to
its last. A path that begins otherwise stays as it is. -/
def withoutHere (p : Path) : Path :=
  match start p.chars with
  | (.here, s) => ofChars (joinPieces (trimPieces ((pieces s).dropWhile isIdle)))
  | _ => p

/-! ### Order -/

/-- Components are ordered by kind, names by their characters. -/
def Component.order : Component → List Nat
  | .root => [0]
  | .here => [1]
  | .up => [2]
  | .name s => 3 :: s.map Char.toNat

/-- Paths are listed component by component. -/
def order (p : Path) : List (List Nat) := p.components.map Component.order

/-- Does `p` stand before `q` in a listing, or at the same place? -/
def le (p q : Path) : Bool :=
  !(q.order.lex p.order fun a b => a.lex b fun m n => decide (m < n))

end Path

end KeyAudit
