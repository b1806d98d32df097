import Scaffolder.Text.Utf8

/-!
# Files and folders

What may stand under a name: a file, or a folder with further names. A place is the list of names
that leads to something in a folder.

- `Entry.find?` is what stands at a place, `Entry.insert` puts something there and makes the
  folders on the way.

What is put at a place is found there (`find?_insert_self`), and every other place that neither
leads there nor lies below keeps what it holds (`find?_insert_of_apart`).
-/

namespace Scaffolder

/-- What stands under a name. -/
inductive Entry where
  /-- A file that is text. -/
  | text (content : String)
  /-- A file that is not text. -/
  | binary (bytes : List UInt8)
  /-- A file that may be neither read nor written. -/
  | locked
  /-- A folder, with what it holds under each name. -/
  | folder (children : List (String × Entry))

/-- A place: the names that lead to it. -/
abbrev Place := List String

namespace Entry

/-- The file with these bytes. -/
def ofBytes (bytes : List UInt8) : Entry :=
  match (Text.decode bytes).text? with
  | some content => .text content
  | none => .binary bytes

/-- What a folder holds under each name. A file holds nothing. -/
def children : Entry → List (String × Entry)
  | .folder children => children
  | _ => []

/-- Whether this is a folder. -/
def isFolder : Entry → Bool
  | .folder _ => true
  | _ => false

/-- Whether this is a file that may be neither read nor written. -/
def isLocked : Entry → Bool
  | .locked => true
  | _ => false

/-- What stands at a place in a folder. -/
def find? : Entry → Place → Option Entry
  | e, [] => some e
  | e, name :: place => (e.children.lookup name).bind fun child => child.find? place

/-- The children of other names than this one. -/
def without (name : String) (children : List (String × Entry)) : List (String × Entry) :=
  children.filter fun c => c.1 ≠ name

/-- The folder with something new at a place, in the stead of what stood there. -/
def insert : Entry → Place → Entry → Entry
  | _, [], new => new
  | e, name :: place, new =>
      let child := (e.children.lookup name).getD (.folder [])
      .folder ((name, child.insert place new) :: without name e.children)

/-- What a folder holds. -/
@[simp] theorem children_folder (children : List (String × Entry)) :
    (Entry.folder children).children = children := rfl

/-- A place is found under its first name, and from there. -/
theorem find?_cons (e : Entry) (name : String) (place : Place) :
    e.find? (name :: place) = (e.children.lookup name).bind fun child => child.find? place := rfl

/-- What is put at a place is put into the folder of the first name, which is made if there is none. -/
theorem insert_cons (e : Entry) (name : String) (place : Place) (new : Entry) :
    e.insert (name :: place) new =
      .folder ((name, ((e.children.lookup name).getD (.folder [])).insert place new)
        :: without name e.children) := rfl

/-- What stands below a place is found from there. -/
theorem find?_append (e : Entry) (place below : Place) :
    e.find? (place ++ below) = (e.find? place).bind fun child => child.find? below := by
  induction place generalizing e with
  | nil => rfl
  | cons name place ih =>
    rw [List.cons_append, find?_cons, find?_cons, Option.bind_assoc]
    exact Option.bind_congr fun child _ => ih child

/-- What stands under another name is still there. -/
theorem lookup_without {name other : String} (h : other ≠ name)
    (children : List (String × Entry)) :
    (without name children).lookup other = children.lookup other := by
  induction children with
  | nil => rfl
  | cons c rest ih =>
    obtain ⟨n, e⟩ := c
    by_cases hn : n = name
    · have ho : (other == n) = false := beq_eq_false_iff_ne.2 (hn ▸ h)
      have hw : without name ((n, e) :: rest) = without name rest := by simp [without, hn]
      rw [hw, ih, List.lookup_cons, ho]
    · have hw : without name ((n, e) :: rest) = (n, e) :: without name rest := by
        simp [without, hn]
      rw [hw, List.lookup_cons, List.lookup_cons, ih]

/-- **What is put at a place is found there.** -/
theorem find?_insert_self (e : Entry) (place : Place) (new : Entry) :
    (e.insert place new).find? place = some new := by
  induction place generalizing e with
  | nil => rfl
  | cons name place ih => simp [insert_cons, find?_cons, ih]

/-- **Other places keep what they hold,** if they neither lead to the changed place nor lie
below it. -/
theorem find?_insert_of_apart (e : Entry) {place other : Place} (new : Entry)
    (above : ¬ other <+: place) (below : ¬ place <+: other) :
    (e.insert place new).find? other = e.find? other := by
  induction place generalizing e other with
  | nil => exact absurd List.nil_prefix below
  | cons name place ih =>
    cases other with
    | nil => exact absurd List.nil_prefix above
    | cons first other =>
      by_cases h : first = name
      · subst h
        have above : ¬ other <+: place := fun p => above (List.cons_prefix_cons.2 ⟨rfl, p⟩)
        have below : ¬ place <+: other := fun p => below (List.cons_prefix_cons.2 ⟨rfl, p⟩)
        cases hc : e.children.lookup first with
        | some child => simp [insert_cons, find?_cons, hc, ih child above below]
        | none =>
          cases other with
          | nil => exact absurd List.nil_prefix above
          | cons second other =>
            have kept : ((folder []).insert place new).find? (second :: other) = none :=
              ih (.folder []) above below
            simp [insert_cons, find?_cons e, find?_cons (.folder _) first, hc, kept]
      · have hb : (first == name) = false := beq_eq_false_iff_ne.2 h
        simp [insert_cons, find?_cons, List.lookup_cons, hb, lookup_without h]

end Entry

end Scaffolder
