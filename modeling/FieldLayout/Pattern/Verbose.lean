import FieldLayout.Unicode.WhiteSpace

/-!
# White space and comments in a pattern

In a verbose pattern white space does not count, and neither do comments, which go from a number
sign to the end of the line. They are skipped between the characters of a pattern and inside of some
of its symbols.

## Main definitions

* `Verbose.skip`: drops white space and comments.
* `Verbose.gather`: the first characters with a property, with white space and comments between them
  dropped.

## Main statements

* `Verbose.gather_plain`: in a pattern that is not verbose, gathering cuts a list in two.
-/

namespace FieldLayout.Verbose

/-- White space. -/
def isBlank (c : Char) : Bool := Unicode.whiteSpace.contains c

/-- Drops white space and comments; the flag says that the text starts inside of a comment. -/
def skipBlanks : Bool → List Char → List Char
  | _, [] => []
  | true, c :: cs => skipBlanks (c != '\n') cs
  | false, c :: cs =>
    if isBlank c then skipBlanks false cs else if c = '#' then skipBlanks true cs else c :: cs

/-- Drops white space and comments from a verbose pattern. -/
def skip (verbose : Bool) (cs : List Char) : List Char :=
  if verbose then skipBlanks false cs else cs

/-- The first characters with a property and what follows them. In a verbose pattern, white space
and comments are dropped on both sides of each of them; the flag says that the text starts inside of
a comment. -/
def gatherFrom (verbose : Bool) (p : Char → Bool) : Bool → List Char → List Char × List Char
  | _, [] => ([], [])
  | true, c :: cs => gatherFrom verbose p (c != '\n') cs
  | false, c :: cs =>
    if verbose && isBlank c then gatherFrom verbose p false cs
    else if verbose && c == '#' then gatherFrom verbose p true cs
    else if p c then
      let (taken, rest) := gatherFrom verbose p false cs
      (c :: taken, rest)
    else ([], c :: cs)

@[inherit_doc gatherFrom]
def gather (verbose : Bool) (p : Char → Bool) (cs : List Char) : List Char × List Char :=
  gatherFrom verbose p false cs

/-- In a pattern that is not verbose, gathering cuts a list in two. -/
theorem gather_plain (p : Char → Bool) (cs : List Char) :
    gather false p cs = (cs.takeWhile p, cs.dropWhile p) := by
  unfold gather
  induction cs with
  | nil => rfl
  | cons c cs ih => by_cases h : p c <;> simp [gatherFrom, h, ih]

end FieldLayout.Verbose
