import FieldLayout.Proofs.Layout.PatternTree
import Mathlib.Data.List.Basic

/-!
# Reading the pattern of a layout

The pattern of a layout is written without escapes and without separators, and it is read symbol by
symbol, some of which look at what stands behind them. If the literals hold no marks of the pattern
language, the pattern is read as the tree of the layout: no symbol reaches from one part into the
next.

## Main definitions

* `Pattern.metaChars`: the marks of the pattern language.
* `Node.ArePlain`, `Layout.IsPlain`: no literal holds a mark of the pattern language.
* `Builder.Reads`: reading gets from one place of a text to another.

## Main statements

* `Builder.reads_patternTextList`: consecutive parts are read as their items, whatever stands behind
  them.
* `Expr.ofText?_patternText`: the pattern of a layout is read as the tree of the layout.
-/

namespace FieldLayout

/-- The marks that have a meaning of their own in a pattern. -/
def Pattern.metaChars : List Char :=
  ['\\', '.', '+', '*', '?', '(', ')', '|', '[', ']', '\x7b', '\x7d', '^', '$']

/-- The literals of the parts hold no marks of the pattern language. -/
def Node.ArePlain (ns : List Node) : Prop :=
  ∀ text ∈ literalsList ns, ∀ c ∈ text.toList, c ∉ Pattern.metaChars

instance (ns : List Node) : Decidable (Node.ArePlain ns) :=
  decidable_of_iff
    ((Node.literalsList ns).all fun text => text.toList.all fun c => !Pattern.metaChars.contains c)
    (by simp [Node.ArePlain])

/-- No literal of the layout holds a mark of the pattern language. -/
def Layout.IsPlain (l : Layout) : Prop := Node.ArePlain l.nodes

instance (l : Layout) : Decidable l.IsPlain := inferInstanceAs (Decidable (Node.ArePlain l.nodes))

/-! ## Symbols -/

namespace Symbol

/-- A question mark behind a repetition or an opening bracket would change their meaning. -/
def NotAsked (cs : List Char) : Prop := cs.head? ≠ some '?'

theorem NotAsked.cons {c : Char} (hc : c ≠ '?') (cs : List Char) : NotAsked (c :: cs) := by
  intro h
  exact hc (Option.some.inj h)

theorem read_of_not_mem_metaChars {c : Char} (hc : c ∉ Pattern.metaChars) (cs : List Char) :
    read false c cs = some (.char c false, cs) := by
  simp only [Pattern.metaChars, List.mem_cons, List.not_mem_nil, or_false, not_or] at hc
  rw [read] <;> simp_all

theorem readGreed_of_notAsked {cs : List Char} (h : NotAsked cs) (min : Nat) (max : Option Nat) :
    readGreed min max cs = (.times min max true, cs) := by
  cases cs with
  | nil => rfl
  | cons c cs =>
    rw [readGreed, if_neg]
    rintro rfl
    exact h rfl

theorem readOpening_of_notAsked {cs : List Char} (h : NotAsked cs) :
    readOpening cs = some (.openCapture none, cs) := by
  cases cs with
  | nil => rfl
  | cons c cs =>
    have hc : c ≠ '?' := fun hc => h (congrArg some hc)
    rw [readOpening] <;> simp_all

/-- A class between brackets is read up to its closing bracket. -/
theorem read_patternText (s : Charset) (rest : List Char) :
    ∃ cs, s.patternText.toList = '[' :: cs ∧
      read false '[' (cs ++ rest) = some (.set s.patternClass, rest) := by
  cases s <;> exact ⟨_, rfl, rfl⟩

theorem not_isBlank_of_isDigit {c : Char} (h : c.isDigit) : Verbose.isBlank c = false := by
  have h : 48 ≤ c.toNat ∧ c.toNat ≤ 57 := by
    simpa [Char.isDigit, UInt32.le_iff_toNat_le] using h
  rw [Verbose.isBlank, CharRanges.contains, CharRanges.containsCode, List.any_eq_false]
  intro r hr
  simp only [Unicode.whiteSpace, CharRanges.ofEnds, Unicode.blankEnds, CharRanges.pairUp,
    List.mem_cons, List.not_mem_nil, or_false] at hr
  rcases hr with rfl | rfl | rfl | rfl | rfl | rfl | rfl | rfl | rfl | rfl <;>
    simp [CharRange.contains] <;> omega

/-- A number is read up to a character that is neither a digit nor blank. -/
theorem readNumber_toDigits (n : UInt32) {c : Char} (hc : c.isDigit = false)
    (hb : Verbose.isBlank c = false) (rest : List Char) :
    readNumber false (Nat.toDigits 10 n.toNat ++ c :: rest) = some (n.toNat, c :: rest) := by
  have hdigits : ∀ d ∈ Nat.toDigits 10 n.toNat, d.isDigit := fun d hd =>
    Nat.isDigit_of_mem_toDigits (by decide) (by decide) hd
  have hstart : (Nat.toDigits 10 n.toNat ++ c :: rest).dropWhile Verbose.isBlank =
      Nat.toDigits 10 n.toNat ++ c :: rest := by
    cases h : Nat.toDigits 10 n.toNat with
    | nil => exact absurd h Nat.toDigits_ne_nil
    | cons d ds =>
      have hd := hdigits d (by rw [h]; exact List.mem_cons_self)
      rw [List.cons_append, List.dropWhile_cons_of_neg (by simp [not_isBlank_of_isDigit hd])]
  have htake : (Nat.toDigits 10 n.toNat ++ c :: rest).takeWhile Char.isDigit =
      Nat.toDigits 10 n.toNat := by
    rw [List.takeWhile_append_of_pos hdigits, List.takeWhile_cons_of_neg (by simp [hc]),
      List.append_nil]
  have hdrop : (Nat.toDigits 10 n.toNat ++ c :: rest).dropWhile Char.isDigit = c :: rest := by
    rw [List.dropWhile_append_of_pos hdigits, List.dropWhile_cons_of_neg (by simp [hc])]
  have hsize : ¬ UInt32.size ≤ n.toNat := Nat.not_le.2 n.toNat_lt_size
  rw [readNumber, hstart, Verbose.gather_plain]
  simp only [htake, hdrop, Nat.ofDigitChars_ten_toDigits]
  rw [if_neg (by simp [hsize, Nat.toDigits_ne_nil]),
    List.dropWhile_cons_of_neg (by simp [hb])]

/-- The counts of a field are read as a repetition if they are in order. -/
theorem read_counts_eq (min max : UInt32) (rest : List Char) :
    read false '\x7b'
        (Nat.toDigits 10 min.toNat ++ ',' :: (Nat.toDigits 10 max.toNat ++ '\x7d' :: rest)) =
      if min ≤ max then some (readGreed min.toNat (some max.toNat) rest) else none := by
  have hmin := readNumber_toDigits min (c := ',') (by decide) (by decide)
    (Nat.toDigits 10 max.toNat ++ '\x7d' :: rest)
  have hmax := readNumber_toDigits max (c := '\x7d') (by decide) (by decide) rest
  obtain ⟨d, ds, hd⟩ : ∃ d ds, Nat.toDigits 10 max.toNat = d :: ds :=
    List.exists_cons_of_ne_nil Nat.toDigits_ne_nil
  have hdigit : d.isDigit := Nat.isDigit_of_mem_toDigits (b := 10) (n := max.toNat) (by decide)
    (by decide) (by rw [hd]; exact List.mem_cons_self)
  have hbrace : d ≠ '\x7d' := by
    rintro rfl
    exact absurd hdigit (by decide)
  rw [hd, List.cons_append] at hmax hmin ⊢
  show readCounts false (Nat.toDigits 10 min.toNat ++ ',' :: d :: (ds ++ '\x7d' :: rest)) = _
  simp [readCounts, Verbose.skip, hmin, hmax, hbrace, UInt32.le_iff_toNat_le]

/-- The counts of a field are read as a greedy repetition, unless a question mark follows. -/
theorem read_counts {min max : UInt32} (h : min ≤ max) {rest : List Char} (hrest : NotAsked rest) :
    read false '\x7b'
        (Nat.toDigits 10 min.toNat ++ ',' :: (Nat.toDigits 10 max.toNat ++ '\x7d' :: rest)) =
      some (.times min.toNat (some max.toNat) true, rest) := by
  rw [read_counts_eq, if_pos h, readGreed_of_notAsked hrest]

end Symbol

/-! ## The text of parts -/

/-- Parts whose pattern can be read back: no literal holds a mark of the pattern language, and the
bounds of every field are in order. -/
structure Node.Writable (ns : List Node) : Prop where
  /-- The literals hold no marks of the pattern language. -/
  plain : Node.ArePlain ns
  /-- No field has its bounds the wrong way round. -/
  ordered : ∀ f ∈ Node.fieldsList ns, f.min ≤ f.max

namespace Node

variable {n : Node} {ns : List Node} {inCapture : Bool} {text : String}

theorem ArePlain.tail (h : ArePlain (n :: ns)) : ArePlain ns :=
  fun t ht => h t (List.mem_append_right _ ht)

theorem ArePlain.children {bracket : Bracket} {children : List Node}
    (h : ArePlain (.group bracket children :: ns)) : ArePlain children :=
  fun t ht => h t (List.mem_append_left _ ht)

theorem Writable.tail (h : Writable (n :: ns)) : Writable ns where
  plain := h.plain.tail
  ordered f hf := h.ordered f (List.mem_append_right _ hf)

theorem Writable.children {bracket : Bracket} {children : List Node}
    (h : Writable (.group bracket children :: ns)) : Writable children where
  plain := h.plain.children
  ordered f hf := h.ordered f (List.mem_append_left _ hf)

theorem patternTextList_cons_eq_ok (h : patternTextList inCapture (n :: ns) = .ok text) :
    ∃ first rest, n.patternText inCapture = .ok first ∧
      patternTextList inCapture ns = .ok rest ∧ text.toList = first.toList ++ rest.toList := by
  rw [patternTextList] at h
  split at h
  · cases h
  · next first hfirst =>
    split at h
    · cases h
    · next rest hrest =>
      cases h
      exact ⟨first, rest, hfirst, hrest, String.toList_append⟩

theorem patternText_group_eq_ok {bracket : Bracket} {children : List Node}
    (h : (Node.group bracket children).patternText inCapture = .ok text) :
    ∃ body, patternTextList bracket.captures children = .ok body ∧
      text.toList = if bracket.captures then '(' :: (body.toList ++ [')'])
        else '(' :: '?' :: ':' :: (body.toList ++ [')', '?']) := by
  rw [patternText] at h
  cases hb : bracket.captures with
  | true =>
    rw [if_pos hb] at h
    split at h
    · cases h
    · split at h
      · next body hbody =>
        cases h
        exact ⟨body, hbody, by simp⟩
      · cases h
  | false =>
    rw [if_neg (by simp [hb])] at h
    split at h
    · next body hbody =>
      cases h
      exact ⟨body, hbody, by simp⟩
    · cases h

theorem toList_patternText_field (f : Field) :
    f.patternText.toList = f.charset.patternText.toList ++ '\x7b' :: (Nat.toDigits 10 f.min.toNat ++
      ',' :: (Nat.toDigits 10 f.max.toNat ++ ['\x7d'])) := by
  simp [Field.patternText]

/-- The pattern of parts does not start with a question mark. -/
theorem notAsked_patternTextList (hns : ArePlain ns)
    (h : patternTextList inCapture ns = .ok text) {rest : List Char}
    (hrest : Symbol.NotAsked rest) : Symbol.NotAsked (text.toList ++ rest) := by
  induction ns using Node.sequence_induction generalizing text with
  | nil =>
    cases h
    exact hrest
  | literal t ns ih =>
    obtain ⟨first, behind, hfirst, hbehind, htext⟩ := patternTextList_cons_eq_ok h
    cases hfirst
    rw [htext, List.append_assoc]
    have hplain := hns t (List.mem_append_left _ List.mem_cons_self)
    -- An empty literal leaves the first character to the parts behind it.
    cases hcs : t.toList with
    | nil => exact ih hns.tail hbehind
    | cons c cs =>
      refine Symbol.NotAsked.cons ?_ _
      rintro rfl
      exact hplain '?' (by rw [hcs]; exact List.mem_cons_self) (by decide)
  | field f ns ih =>
    obtain ⟨first, behind, hfirst, hbehind, htext⟩ := patternTextList_cons_eq_ok h
    cases hfirst
    obtain ⟨cs, hcs, _⟩ := Symbol.read_patternText f.charset []
    rw [htext, toList_patternText_field, hcs]
    exact Symbol.NotAsked.cons (by decide) _
  | date run ns ih =>
    obtain ⟨first, behind, hfirst, hbehind, htext⟩ := patternTextList_cons_eq_ok h
    cases hfirst
    rw [htext]
    exact ih hns.tail hbehind
  | sign ns ih =>
    obtain ⟨first, behind, hfirst, hbehind, htext⟩ := patternTextList_cons_eq_ok h
    cases hfirst
    rw [htext]
    exact ih hns.tail hbehind
  | group bracket children ns _ ih =>
    obtain ⟨first, behind, hfirst, hbehind, htext⟩ := patternTextList_cons_eq_ok h
    obtain ⟨body, _, hbody⟩ := patternText_group_eq_ok hfirst
    rw [htext, hbody]
    cases bracket.captures <;> exact Symbol.NotAsked.cons (by decide) _

end Node

/-! ## Reading -/

namespace Builder

variable {b b' b'' : Builder} {cs mid rest : List Char}

/-- Reading gets from the start of a text to the start of another one, as long as enough symbols are
allowed for. -/
def Reads (b : Builder) (cs : List Char) (b' : Builder) (rest : List Char) : Prop :=
  ∀ n, cs.length ≤ n → ∃ m, rest.length ≤ m ∧ read n b cs = read m b' rest

theorem Reads.refl (b : Builder) (cs : List Char) : b.Reads cs b cs := fun n hn => ⟨n, hn, rfl⟩

theorem Reads.trans (h : b.Reads cs b' mid) (h' : b'.Reads mid b'' rest) :
    b.Reads cs b'' rest := by
  intro n hn
  obtain ⟨m, hm, hread⟩ := h n hn
  obtain ⟨k, hk, hread'⟩ := h' m hm
  exact ⟨k, hk, hread.trans hread'⟩

/-- One symbol. -/
theorem Reads.of_symbol {c : Char} {s : Symbol} (hflags : b.flags = .start)
    (hsymbol : Symbol.read false c cs = some (s, rest)) (hlength : rest.length ≤ cs.length)
    (hstep : b.step s = some b') : b.Reads (c :: cs) b' rest := by
  intro n hn
  cases n with
  | zero => cases hn
  | succ n =>
    refine ⟨n, Nat.le_trans hlength (Nat.le_of_succ_le_succ hn), ?_⟩
    have hverbose : b.flags.verbose = false := by rw [hflags]; rfl
    rw [read]
    simp [hverbose, Verbose.skip, hsymbol, hstep]

/-- What has been read after some more items, which hold some more capturing groups. -/
def extend (b : Builder) (items : List Expr) (captures : Nat) : Builder :=
  { b with
    level := ⟨b.level.branches, items.reverse ++ b.level.items⟩
    captures := b.captures + captures }

theorem extend_extend (b : Builder) (is js : List Expr) (k m : Nat) :
    (b.extend is k).extend js m = b.extend (is ++ js) (k + m) := by
  simp [extend, Nat.add_assoc]

/-- The characters of a plain text are read one by one. -/
theorem reads_literal (hflags : b.flags = .start) (hcs : ∀ c ∈ cs, c ∉ Pattern.metaChars) :
    b.Reads (cs ++ rest) (b.extend (cs.map fun c => .chars (.single c) false 0) 0) rest := by
  induction cs generalizing b with
  | nil => exact Reads.refl b rest
  | cons c cs ih =>
    have hc := hcs c List.mem_cons_self
    have hchar : b.Reads (c :: (cs ++ rest)) (b.extend [.chars (.single c) false 0] 0)
        (cs ++ rest) := by
      refine Reads.of_symbol hflags (Symbol.read_of_not_mem_metaChars hc _) (Nat.le_refl _) ?_
      simp [step, charSet?, pushSet, push, Level.push, extend, hflags, Flags.start,
        CharClass.withVariants]
    have hrest := ih (b := b.extend [.chars (.single c) false 0] 0) hflags
      fun d hd => hcs d (List.mem_cons_of_mem _ hd)
    rw [extend_extend] at hrest
    exact hchar.trans hrest

/-- The set of a field is read as a class between brackets. -/
theorem reads_charset (hflags : b.flags = .start) (s : Charset) :
    b.Reads (s.patternText.toList ++ rest)
      (b.extend [.chars s.ranges false s.patternClass.depth] 0) rest := by
  obtain ⟨cs, hcs, hclass⟩ := Symbol.read_patternText s rest
  rw [hcs]
  refine Reads.of_symbol hflags hclass (by simp) ?_
  rw [step, hflags, Charset.toRanges?_patternClass, pushSet, hflags]
  rfl

/-- A field is read as a counted repetition of its set. -/
theorem reads_field (hflags : b.flags = .start) {f : Field} (hf : f.min ≤ f.max)
    (hrest : Symbol.NotAsked rest) :
    b.Reads (f.patternText.toList ++ rest) (b.extend [f.patternItem] 0) rest := by
  rw [Node.toList_patternText_field]
  simp only [List.append_assoc, List.cons_append, List.nil_append]
  refine (reads_charset hflags f.charset).trans ?_
  refine Reads.of_symbol hflags (Symbol.read_counts hf hrest) (by simp; omega) ?_
  simp [step, extend, hflags, Flags.start, Field.patternItem]

/-- The content of a group that is being closed. -/
theorem expr_reverse (items : List Expr) :
    (Level.mk [] items.reverse).expr = Expr.ofItems items := by
  match items with
  | [] => rfl
  | [e] => rfl
  | e :: e' :: es =>
    obtain ⟨last, before, h⟩ : ∃ last before, (e' :: es).reverse = last :: before :=
      List.exists_cons_of_ne_nil (by simp)
    have hitems : (e :: e' :: es).reverse = last :: (before ++ [e]) := by
      rw [List.reverse_cons, h, List.cons_append]
    have hbranch : (Level.mk [] (e :: e' :: es).reverse).branch =
        .seq (e :: e' :: es).reverse.reverse := by
      rw [hitems]
      cases before <;> rfl
    rw [Level.expr, hbranch, List.reverse_reverse]
    rfl

theorem finish?_extend_start (items : List Expr) (k : Nat) :
    (Builder.start.extend items k).finish? = some (Expr.ofItems items) := by
  simp [finish?, extend, Builder.start, Level.start, expr_reverse]

/-- What has been read at the start of a group. -/
def enter (b : Builder) (index : Option Nat) (captures : Nat) : Builder :=
  ⟨⟨index, b.flags, b.level⟩ :: b.outer, .start, b.flags, b.captures + captures, b.names⟩

@[simp] theorem captures_enter (b : Builder) (index : Option Nat) (k : Nat) :
    (b.enter index k).captures = b.captures + k := rfl

/-- A closing bracket behind the items of a group. -/
theorem reads_close (hflags : b.flags = .start) (index : Option Nat) (items : List Expr)
    (k m : Nat) (rest : List Char) : ((b.enter index k).extend items m).Reads (')' :: rest)
      (b.extend [.group index (.ofItems items)] (k + m)) rest := by
  refine Reads.of_symbol hflags (s := .close) rfl (Nat.le_refl _) ?_
  simp [step, enter, extend, Level.start, Level.push, expr_reverse, Nat.add_assoc]

/-- The opening bracket of a capturing group. -/
theorem reads_openCapture (hflags : b.flags = .start) (hcs : Symbol.NotAsked cs) :
    b.Reads ('(' :: cs) (b.enter (some (b.captures + 1)) 1) cs := by
  refine Reads.of_symbol hflags (Symbol.readOpening_of_notAsked hcs) (Nat.le_refl _) ?_
  simp [step, openCapture, enter]

/-- The opening bracket of an optional group. -/
theorem reads_openPlain (hflags : b.flags = .start) (cs : List Char) :
    b.Reads ('(' :: '?' :: ':' :: cs) (b.enter none 0) cs := by
  refine Reads.of_symbol hflags (s := .openPlain []) rfl (by simp; omega) ?_
  simp [step, enter, Flags.apply]

/-- A capturing group is read as a numbered group. -/
theorem reads_capture (hflags : b.flags = .start) {items : List Expr} {k : Nat}
    (hcs : Symbol.NotAsked (cs ++ ')' :: rest))
    (hbody : (b.enter (some (b.captures + 1)) 1).Reads (cs ++ ')' :: rest)
      ((b.enter (some (b.captures + 1)) 1).extend items k) (')' :: rest)) :
    b.Reads ('(' :: (cs ++ ')' :: rest))
      (b.extend [.group (some (b.captures + 1)) (.ofItems items)] (1 + k)) rest :=
  ((reads_openCapture hflags hcs).trans hbody).trans (reads_close hflags _ items 1 k rest)

/-- An optional group is read as a repetition of at most one round. -/
theorem reads_optional (hflags : b.flags = .start) {items : List Expr} {k : Nat}
    (hrest : Symbol.NotAsked rest)
    (hbody : (b.enter none 0).Reads (cs ++ ')' :: '?' :: rest)
      ((b.enter none 0).extend items k) (')' :: '?' :: rest)) :
    b.Reads ('(' :: '?' :: ':' :: (cs ++ ')' :: '?' :: rest))
      (b.extend [.times (.group none (.ofItems items)) 0 (some 1) true] k) rest := by
  have hclose := reads_close hflags none items 0 k ('?' :: rest)
  have hask : (b.extend [.group none (.ofItems items)] (0 + k)).Reads ('?' :: rest)
      (b.extend [.times (.group none (.ofItems items)) 0 (some 1) true] k) rest := by
    refine Reads.of_symbol hflags (s := .times 0 (some 1) true)
      (congrArg some (Symbol.readGreed_of_notAsked hrest 0 (some 1))) (Nat.le_refl _) ?_
    simp [step, extend, hflags, Flags.start]
  exact (((reads_openPlain hflags _).trans hbody).trans hclose).trans hask

/-- The pattern of consecutive parts is read as their items, whatever stands behind them. -/
theorem reads_patternTextList {ns : List Node} (hns : Node.Writable ns) {inCapture : Bool}
    {text : String} (h : Node.patternTextList inCapture ns = .ok text) (hflags : b.flags = .start)
    (hrest : Symbol.NotAsked rest) :
    b.Reads (text.toList ++ rest)
      (b.extend (Node.patternItemsList b.captures ns) (Node.captureCountList ns)) rest := by
  induction ns using Node.sequence_induction generalizing b inCapture text rest with
  | nil =>
    cases h
    exact Reads.refl b rest
  | literal t ns ih =>
    obtain ⟨first, behind, hfirst, hbehind, htext⟩ := Node.patternTextList_cons_eq_ok h
    cases hfirst
    have hplain := hns.plain t (List.mem_append_left _ List.mem_cons_self)
    have hread := ih (b := b.extend (Expr.ofLiteral t) 0) hns.tail hbehind hflags hrest
    rw [extend_extend] at hread
    rw [htext, List.append_assoc]
    exact (reads_literal hflags hplain).trans hread
  | field f ns ih =>
    obtain ⟨first, behind, hfirst, hbehind, htext⟩ := Node.patternTextList_cons_eq_ok h
    cases hfirst
    have hf := hns.ordered f (List.mem_append_left _ List.mem_cons_self)
    have hnext := Node.notAsked_patternTextList hns.tail.plain hbehind hrest
    have hread := ih (b := b.extend [f.patternItem] 0) hns.tail hbehind hflags hrest
    rw [extend_extend] at hread
    rw [htext, List.append_assoc]
    exact (reads_field hflags hf hnext).trans hread
  | date run ns ih =>
    obtain ⟨first, behind, hfirst, hbehind, htext⟩ := Node.patternTextList_cons_eq_ok h
    cases hfirst
    have hread := ih (b := b.extend [] 0) hns.tail hbehind hflags hrest
    rw [extend_extend] at hread
    rw [htext]
    exact hread
  | sign ns ih =>
    obtain ⟨first, behind, hfirst, hbehind, htext⟩ := Node.patternTextList_cons_eq_ok h
    cases hfirst
    have hread := ih (b := b.extend [] 0) hns.tail hbehind hflags hrest
    rw [extend_extend] at hread
    rw [htext]
    exact hread
  | group bracket children ns ihc ih =>
    obtain ⟨first, behind, hfirst, hbehind, htext⟩ := Node.patternTextList_cons_eq_ok h
    obtain ⟨body, hbody, hgroup⟩ := Node.patternText_group_eq_ok hfirst
    have hnext := Node.notAsked_patternTextList hns.tail.plain hbehind hrest
    have hread := ih (b := b.extend ((Node.group bracket children).patternItems b.captures)
      (Node.group bracket children).captureCount) hns.tail hbehind hflags hrest
    rw [extend_extend] at hread
    refine Reads.trans ?_ hread
    -- Only the brackets of the two kinds of group differ. The content is read by one induction.
    cases hb : bracket.captures with
    | true =>
      have hclose : Symbol.NotAsked (')' :: (behind.toList ++ rest)) :=
        Symbol.NotAsked.cons (by decide) _
      have hinner := reads_capture hflags
        (Node.notAsked_patternTextList hns.children.plain hbody hclose)
        (ihc (b := b.enter (some (b.captures + 1)) 1) hns.children hbody hflags hclose)
      simpa [htext, hgroup, hb, Node.patternItems, Node.captureCount] using hinner
    | false =>
      have hclose : Symbol.NotAsked (')' :: '?' :: (behind.toList ++ rest)) :=
        Symbol.NotAsked.cons (by decide) _
      have hinner := reads_optional hflags hnext
        (ihc (b := b.enter none 0) hns.children hbody hflags hclose)
      simpa [htext, hgroup, hb, Node.patternItems, Node.captureCount] using hinner

end Builder

theorem Layout.patternText_eq_ok {l : Layout} {text : String} (h : l.patternText = .ok text) :
    ∃ body, Node.patternTextList false l.nodes = .ok body ∧
      text.toList = '^' :: (body.toList ++ ['$']) := by
  rw [patternText] at h
  split at h
  · next body hbody =>
    cases h
    exact ⟨body, hbody, by simp⟩
  · cases h

theorem Builder.reads_caret (cs : List Char) :
    Builder.start.Reads ('^' :: cs) (Builder.start.extend [.edge .textStart] 0) cs :=
  Builder.Reads.of_symbol rfl (s := .mark .caret) rfl (Nat.le_refl _) rfl

/-- The pattern of a layout is read as the tree of the layout. -/
theorem Expr.ofText?_patternText {l : Layout} (hl : Node.Writable l.nodes) {text : String}
    (h : l.patternText = .ok text) : Expr.ofText? text = some l.patternTree := by
  obtain ⟨body, hbody, htext⟩ := Layout.patternText_eq_ok h
  -- The caret, the parts and the dollar sign are read one after the other.
  let start := Builder.start.extend [.edge .textStart] 0
  let items := start.extend (Node.patternItemsList 0 l.nodes) (Node.captureCountList l.nodes)
  let stop := items.extend [.edge .textEnd] 0
  have hcaret : Builder.start.Reads text.toList start (body.toList ++ ['$']) := by
    rw [htext]
    exact Builder.reads_caret (body.toList ++ ['$'])
  have hnodes : start.Reads (body.toList ++ ['$']) items ['$'] :=
    Builder.reads_patternTextList hl hbody rfl (Symbol.NotAsked.cons (by decide) [])
  have hdollar : items.Reads ['$'] stop [] :=
    Builder.Reads.of_symbol rfl (s := .mark .dollar) rfl (Nat.le_refl _) rfl
  obtain ⟨m, _, hread⟩ := (hcaret.trans (hnodes.trans hdollar)) text.toList.length (Nat.le_refl _)
  have hend : Builder.read m stop [] = some stop := by
    rw [Builder.read]
    rfl
  have hstop : stop = Builder.start.extend (.edge .textStart :: Node.patternItemsList 0 l.nodes ++
      [.edge .textEnd]) (0 + (Node.captureCountList l.nodes + 0)) := by
    simp only [stop, items, start, Builder.extend_extend, List.cons_append, List.nil_append]
  rw [Expr.ofText?, hread, hend, Option.bind_some, hstop, Builder.finish?_extend_start]
  rfl

end FieldLayout
