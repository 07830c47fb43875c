import FieldLayout.Unicode.GeneralCategory

/-!
# Sets with names

Sets of characters go by names, which are compared loosely: letters in either case are the same, and
spaces, hyphens, low lines and a leading `is` do not count.

## Main definitions

* `Unicode.looseName`: the part of a name that counts.
* `Unicode.NamedSet`: a set of characters with its names.
* `Unicode.NamedSet.members`: the characters of the set.
* `Unicode.findSet?`: the set that goes by a name.
-/

namespace FieldLayout.Unicode

/-- The characters of a name that count, in small letters. Only the ASCII range counts. -/
def looseChars (cs : List Char) : List Char :=
  (cs.filter fun c => c.toNat < 128 && c != ' ' && c != '_' && c != '-').map Char.toLower

/-- The part of a name that counts. The name `isc` stands for itself, since `c` is another name. -/
def looseName (name : String) : String :=
  match name.toList with
  | i :: s :: rest =>
    if i.toLower = 'i' && s.toLower = 's' then
      if looseChars rest = ['c'] then "isc" else String.ofList (looseChars rest)
    else String.ofList (looseChars (i :: s :: rest))
  | cs => String.ofList (looseChars cs)

/-- One of several names is the given loose name. -/
def namesInclude (names : List String) (name : String) : Bool :=
  names.any fun n => looseName n == name

/-- A set of characters with its names. It holds the characters of some categories and those of a
table, without those of a second table. -/
structure NamedSet where
  /-- The names of the set. -/
  names : List String
  /-- The categories that are in it as a whole. -/
  categories : List GeneralCategory
  /-- The table of further members. -/
  further : String
  /-- The table of the exceptions. -/
  exceptions : String
  deriving Repr, Inhabited

/-- The set goes by a loose name. -/
def NamedSet.hasName (s : NamedSet) (name : String) : Bool := namesInclude s.names name

/-- The characters of a set. -/
def NamedSet.members (s : NamedSet) : CharRanges :=
  ((ofCategories s.categories).union (.ofTable s.further)).diff (.ofTable s.exceptions)

/-- The set that goes by a loose name. -/
def findSet? (sets : List NamedSet) (name : String) : Option CharRanges :=
  (sets.find? (·.hasName name)).map (·.members)

end FieldLayout.Unicode
