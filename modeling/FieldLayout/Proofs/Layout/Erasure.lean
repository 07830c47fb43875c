import FieldLayout.Proofs.Layout.Nesting
import FieldLayout.Proofs.Layout.PatternReading

/-!
# What a pattern keeps of a layout

A pattern does not show everything that a layout says: dates and signs leave no trace, literals that
follow each other run together, repeats do not count, and the two kinds of capturing groups look the
same. Here a layout is reduced to what is left when all this is erased. Its pattern stays the same,
and it is all that can be told from the pattern: the pattern is put together without separators, but
its first character tells what kind of part comes first, and each part tells where it ends.

## Main definitions

* `Layout.erased`: a layout without what its pattern does not show.
* `Node.Reduced`: the parts that are left.
* `Node.Leads`: the first characters that a pattern can have.

## Main statements

* `Node.patternTextList_erasedList`: erasing does not change the pattern.
* `Node.Reduced.eq_of_patternText_append_eq`: reduced parts are recovered from their pattern,
  whatever stands behind them.
* `Layout.patternText_eq_iff_erased_eq`: equal patterns are those of layouts equal after erasing.
-/

namespace FieldLayout

/-! ## Erasing -/

/-- Capturing groups of both kinds have the same pattern. -/
def Bracket.erased : Bracket → Bracket
  | optional => optional
  | capture => capture
  | reformat => capture

/-- A part in front of others. A literal becomes one with a literal right behind it. -/
def Node.attach : Node → List Node → List Node
  | .literal text, .literal next :: ns => .literal (text ++ next) :: ns
  | n, ns => n :: ns

mutual

/-- What a pattern shows of a part, if anything. -/
def Node.erased? : Node → Option Node
  | .literal text => if text = "" then none else some (.literal text)
  | .field f => some (.field { f with repeats := 1 })
  | .date _ | .sign => none
  | .group bracket children => some (.group bracket.erased (Node.erasedList children))

/-- What a pattern shows of consecutive parts. -/
def Node.erasedList : List Node → List Node
  | [] => []
  | n :: ns =>
    match n.erased? with
    | none => Node.erasedList ns
    | some m => m.attach (Node.erasedList ns)

end

/-- What a pattern shows of a layout. -/
def Layout.erased (l : Layout) : Layout := ⟨Node.erasedList l.nodes⟩

/-- A date between two literals is gone before the literals are joined. -/
example : Layout.erased ⟨[.literal "A", .date "YY", .literal "B", .group .reformat [.sign]]⟩ =
    ⟨[.literal "AB", .group .capture []]⟩ := by decide

namespace Node

variable {inCapture : Bool} {ns ms : List Node}

theorem patternTextList_attach (n : Node) (ns : List Node) :
    patternTextList inCapture (n.attach ns) = patternTextList inCapture (n :: ns) := by
  unfold attach
  split
  · next text next ns =>
    simp only [patternTextList, patternText]
    cases patternTextList inCapture ns with
    | error e => rfl
    | ok rest => exact congrArg Except.ok String.append_assoc
  · rfl

theorem patternText_group_erased {b : Bracket} {children : List Node} {text : String}
    (hchildren : ∀ body, patternTextList b.captures children = .ok body →
      patternTextList b.captures (erasedList children) = .ok body)
    (h : (Node.group b children).patternText inCapture = .ok text) :
    (Node.group b.erased (erasedList children)).patternText inCapture = .ok text := by
  have hb : b.erased.captures = b.captures := by cases b <;> rfl
  rw [patternText] at h ⊢
  rw [hb]
  cases hcaptures : b.captures with
  | true =>
    rw [hcaptures] at h hchildren
    cases inCapture with
    | true => cases h
    | false =>
      cases hbody : patternTextList true children with
      | error e => simp [hbody] at h
      | ok body => simpa [hbody, hchildren body hbody] using h
  | false =>
    rw [hcaptures] at h hchildren
    cases hbody : patternTextList false children with
    | error e => simp [hbody] at h
    | ok body => simpa [hbody, hchildren body hbody] using h

theorem erasedList_cons_of_eq_none {n : Node} (hn : n.erased? = none) :
    erasedList (n :: ns) = erasedList ns := by
  rw [erasedList, hn]

theorem erasedList_cons_of_eq_some {n m : Node} (hn : n.erased? = some m) :
    erasedList (n :: ns) = m.attach (erasedList ns) := by
  rw [erasedList, hn]

/-- Nothing is shown of a part without a pattern of its own; otherwise the pattern is that of what
is shown. -/
theorem patternTextList_erasedList_cons {n : Node} {text : String}
    (h : patternTextList inCapture (n :: ns) = .ok text)
    (hn : ∀ first, n.patternText inCapture = .ok first →
      (n.erased? = none ∧ first = "") ∨
        ∃ m, n.erased? = some m ∧ m.patternText inCapture = .ok first)
    (hns : ∀ rest, patternTextList inCapture ns = .ok rest →
      patternTextList inCapture (erasedList ns) = .ok rest) :
    patternTextList inCapture (erasedList (n :: ns)) = .ok text := by
  obtain ⟨first, rest, hfirst, hrest, htext⟩ := patternTextList_cons_eq_ok h
  rw [← String.toList_append, String.toList_inj] at htext
  subst htext
  rcases hn first hfirst with ⟨hnone, rfl⟩ | ⟨m, hsome, hm⟩
  · rw [erasedList_cons_of_eq_none hnone, String.empty_append]
    exact hns rest hrest
  · rw [erasedList_cons_of_eq_some hsome, patternTextList_attach]
    exact patternTextList_cons_of_eq_ok hm (hns rest hrest)

/-- Erasing does not change the pattern of parts that have one. -/
theorem patternTextList_erasedList {text : String} (h : patternTextList inCapture ns = .ok text) :
    patternTextList inCapture (erasedList ns) = .ok text := by
  induction ns using Node.sequence_induction generalizing inCapture text with
  | nil => exact h
  | literal t ns ih =>
    refine patternTextList_erasedList_cons h (fun first hfirst => ?_) fun _ => ih
    cases hfirst
    by_cases hempty : t = ""
    · exact .inl ⟨if_pos hempty, hempty⟩
    · exact .inr ⟨_, if_neg hempty, rfl⟩
  | field f ns ih =>
    refine patternTextList_erasedList_cons h (fun first hfirst => ?_) fun _ => ih
    exact .inr ⟨_, rfl, hfirst⟩
  | date _ ns ih | sign ns ih =>
    refine patternTextList_erasedList_cons h (fun first hfirst => ?_) fun _ => ih
    cases hfirst
    exact .inl ⟨rfl, rfl⟩
  | group b children ns ihc ih =>
    refine patternTextList_erasedList_cons h (fun first hfirst => ?_) fun _ => ih
    exact .inr ⟨_, rfl, patternText_group_erased (fun _ => ihc) hfirst⟩

/-! ## Reduced parts -/

/-- Parts of which nothing is left to erase, with no marks of the pattern language in literals. -/
inductive Reduced : List Node → Prop
  | nil : Reduced []
  | literal {text : String} {ns : List Node} (hne : text ≠ "")
      (hplain : ∀ c ∈ text.toList, c ∉ Pattern.metaChars)
      (hnext : ∀ u, ns.head? ≠ some (.literal u)) (others : Reduced ns) :
      Reduced (.literal text :: ns)
  | field {f : Field} {ns : List Node} (hone : f.repeats = 1) (others : Reduced ns) :
      Reduced (.field f :: ns)
  | group {b : Bracket} {children ns : List Node} (hb : b ≠ .reformat) (content : Reduced children)
      (others : Reduced ns) : Reduced (.group b children :: ns)

theorem Reduced.attach_literal {text : String} (hne : text ≠ "")
    (hplain : ∀ c ∈ text.toList, c ∉ Pattern.metaChars) (h : Reduced ns) :
    Reduced ((Node.literal text).attach ns) := by
  cases h with
  | nil => exact .literal hne hplain nofun .nil
  | literal hne' hplain' hnext others =>
    refine .literal (by simp [hne]) (fun c hc => ?_) hnext others
    rw [String.toList_append, List.mem_append] at hc
    exact hc.elim (hplain c) (hplain' c)
  | field hone others => exact .literal hne hplain nofun (.field hone others)
  | group hb content others => exact .literal hne hplain nofun (.group hb content others)

theorem reduced_erasedList (h : ArePlain ns) : Reduced (erasedList ns) := by
  induction ns using Node.sequence_induction with
  | nil => exact .nil
  | literal t ns ih =>
    by_cases hempty : t = ""
    · have hnone : (Node.literal t).erased? = none := if_pos hempty
      rw [erasedList_cons_of_eq_none hnone]
      exact ih h.tail
    · have hsome : (Node.literal t).erased? = some (.literal t) := if_neg hempty
      rw [erasedList_cons_of_eq_some hsome]
      exact .attach_literal hempty (h t (List.mem_append_left _ List.mem_cons_self)) (ih h.tail)
  | field f ns ih => exact .field rfl (ih h.tail)
  | date _ ns ih | sign ns ih => exact ih h.tail
  | group b children ns ihc ih =>
    exact .group (by cases b <;> decide) (ihc h.children) (ih h.tail)

/-! ## First characters -/

/-- The first character of the pattern of reduced parts with an end behind them. The end is that of
the group around the parts or that of the whole pattern. -/
def Leads (c : Char) : List Node → Prop
  | [] => c = ')' ∨ c = '$'
  | .literal _ :: _ => c ∉ Pattern.metaChars
  | .field _ :: _ => c = '['
  | .group _ _ :: _ => c = '('
  | .date _ :: _ | .sign :: _ => False

theorem Leads.ne_question {c : Char} (h : Leads c ns) : c ≠ '?' := by
  rintro rfl
  cases ns with
  | nil => simp [Leads] at h
  | cons n ns => cases n <;> simp [Leads, Pattern.metaChars] at h

theorem Leads.mem_metaChars {c : Char} (h : Leads c ns)
    (hno : ∀ u, ns.head? ≠ some (.literal u)) : c ∈ Pattern.metaChars := by
  cases ns with
  | nil => rcases h with rfl | rfl <;> decide
  | cons n ns =>
    cases n with
    | literal u => exact absurd rfl (hno u)
    | field f | group b children =>
      obtain rfl := h
      decide
    | date _ | sign => exact h.elim

/-- Either nothing is left of both, or parts of one kind come first. -/
def StartsAlike (ms : List Node) : List Node → Prop
  | [] => ms = []
  | .literal _ :: _ => ∃ u ms', ms = .literal u :: ms'
  | .field _ :: _ => ∃ g ms', ms = .field g :: ms'
  | .group _ _ :: _ => ∃ d ds ms', ms = .group d ds :: ms'
  | .date _ :: _ | .sign :: _ => False

/-- The first character tells parts of one kind from parts of another. -/
theorem Leads.startsAlike {c : Char} (h : Leads c ns) (h' : Leads c ms) : StartsAlike ms ns := by
  cases ns with
  | nil =>
    cases ms with
    | nil => rfl
    | cons m ms => cases m <;> simp_all [Leads, Pattern.metaChars]
  | cons n ns =>
    cases ms with
    | nil => cases n <;> simp_all [Leads, Pattern.metaChars]
    | cons m ms => cases n <;> cases m <;> simp_all [Leads, StartsAlike, Pattern.metaChars]

/-- Something stands behind parts that ends them. -/
def EndsParts (rest : List Char) : Prop := ∃ c cs, rest = c :: cs ∧ (c = ')' ∨ c = '$')

theorem Reduced.exists_leads {text : String} {rest : List Char} (h : Reduced ns)
    (htext : patternTextList inCapture ns = .ok text) (hrest : EndsParts rest) :
    ∃ c cs, text.toList ++ rest = c :: cs ∧ Leads c ns := by
  cases h with
  | nil =>
    cases htext
    obtain ⟨c, cs, rfl, hc⟩ := hrest
    exact ⟨c, cs, rfl, hc⟩
  | @literal t ns hne hplain hnext others =>
    obtain ⟨first, behind, hfirst, -, htext⟩ := patternTextList_cons_eq_ok htext
    cases hfirst
    obtain ⟨c, cs, hcs⟩ : ∃ c cs, t.toList = c :: cs :=
      List.exists_cons_of_ne_nil (by simpa using hne)
    refine ⟨c, cs ++ (behind.toList ++ rest), ?_, hplain c (by simp [hcs])⟩
    rw [htext, hcs]
    simp
  | @field f ns hone others =>
    obtain ⟨first, behind, hfirst, -, htext⟩ := patternTextList_cons_eq_ok htext
    cases hfirst
    obtain ⟨cs, hcs, -⟩ := Symbol.read_patternText f.charset []
    rw [htext, toList_patternText_field, hcs]
    exact ⟨'[', _, rfl, rfl⟩
  | @group b children ns hb content others =>
    obtain ⟨first, behind, hfirst, -, htext⟩ := patternTextList_cons_eq_ok htext
    obtain ⟨body, -, hbody⟩ := patternText_group_eq_ok hfirst
    rw [htext, hbody]
    cases b.captures <;> exact ⟨'(', _, rfl, rfl⟩

end Node

/-! ## Recovering fields -/

/-- Where a stretch ends, the rest starts with something that cannot belong to it. -/
theorem append_inj_of_stops {α : Type} {p : α → Bool} {xs ys xs' ys' : List α}
    (hxs : ∀ c ∈ xs, p c) (hys : ∀ c ∈ ys, p c) (hxs' : ∀ c ∈ xs'.head?, ¬ p c)
    (hys' : ∀ c ∈ ys'.head?, ¬ p c) (h : xs ++ xs' = ys ++ ys') : xs = ys ∧ xs' = ys' := by
  induction xs generalizing ys with
  | nil =>
    cases ys with
    | nil => exact ⟨rfl, h⟩
    | cons c ys =>
      have hc : c ∈ xs'.head? := by
        rw [List.nil_append] at h
        rw [h]
        rfl
      exact absurd (hys c List.mem_cons_self) (hxs' c hc)
  | cons a xs ih =>
    cases ys with
    | nil =>
      have ha : a ∈ ys'.head? := by
        rw [List.nil_append] at h
        rw [← h]
        rfl
      exact absurd (hxs a List.mem_cons_self) (hys' a ha)
    | cons c ys =>
      obtain ⟨rfl, htail⟩ := List.cons.inj h
      obtain ⟨rfl, hrest⟩ := ih (fun c hc => hxs c (List.mem_cons_of_mem _ hc))
        (fun c hc => hys c (List.mem_cons_of_mem _ hc)) htail
      exact ⟨rfl, hrest⟩

theorem toDigits_append_inj {n m : UInt32} {c : Char} {xs ys : List Char} (hc : c.isDigit = false)
    (h : Nat.toDigits 10 n.toNat ++ c :: xs = Nat.toDigits 10 m.toNat ++ c :: ys) :
    n = m ∧ xs = ys := by
  have hdigits (k : UInt32) : ∀ d ∈ Nat.toDigits 10 k.toNat, d.isDigit := fun d hd =>
    Nat.isDigit_of_mem_toDigits (by decide) (by decide) hd
  obtain ⟨hnumber, hrest⟩ := append_inj_of_stops (hdigits n) (hdigits m) (by simp [hc])
    (by simp [hc]) h
  refine ⟨?_, (List.cons.inj hrest).2⟩
  have hvalue := congrArg (fun ds => Nat.ofDigitChars 10 ds 0) hnumber
  simpa [UInt32.toNat_inj] using hvalue

namespace Field

/-- A field is recovered from its pattern, up to its repeats. -/
theorem patternText_append_inj {f g : Field} {xs ys : List Char}
    (h : f.patternText.toList ++ xs = g.patternText.toList ++ ys) :
    f.min = g.min ∧ f.max = g.max ∧ f.charset = g.charset ∧ xs = ys := by
  have hbrace (s : Charset) : ∀ c ∈ s.patternText.toList, (c != '\x7b') = true :=
    List.all_eq_true.1 (by cases s <;> rfl)
  simp only [Node.toList_patternText_field, List.append_assoc, List.cons_append,
    List.nil_append] at h
  obtain ⟨hset, h⟩ := append_inj_of_stops (hbrace f.charset) (hbrace g.charset) (by simp)
    (by simp) h
  obtain ⟨hmin, h⟩ := toDigits_append_inj (by decide) (List.cons.inj h).2
  obtain ⟨hmax, h⟩ := toDigits_append_inj (by decide) h
  refine ⟨hmin, hmax, ?_, h⟩
  rw [String.toList_inj] at hset
  revert hset
  cases f.charset <;> cases g.charset <;> simp [Charset.patternText]

theorem eq_of_repeats_eq_one {f g : Field} (hf : f.repeats = 1) (hg : g.repeats = 1)
    (hmin : f.min = g.min) (hmax : f.max = g.max) (hset : f.charset = g.charset) : f = g := by
  cases f
  cases g
  simp_all

end Field

/-! ## Recovering parts -/

namespace Node

variable {inCapture : Bool} {ns ms : List Node}

/-- The brackets of a group and what stands between them are recovered from its pattern. -/
theorem patternText_group_append_inj {b d : Bracket} {bs ds : List Node} {first second : String}
    {xs ys : List Char} (hb : b ≠ .reformat) (hd : d ≠ .reformat) (hbs : Reduced bs)
    (hds : Reduced ds) (hfirst : (Node.group b bs).patternText inCapture = .ok first)
    (hsecond : (Node.group d ds).patternText inCapture = .ok second)
    (h : first.toList ++ xs = second.toList ++ ys) :
    b = d ∧ ∃ body body' xs' ys', patternTextList b.captures bs = .ok body ∧
      patternTextList b.captures ds = .ok body' ∧ EndsParts xs' ∧ EndsParts ys' ∧
      body.toList ++ xs' = body'.toList ++ ys' ∧ (xs' = ys' → xs = ys) := by
  obtain ⟨body, hbody, hfirst⟩ := patternText_group_eq_ok hfirst
  obtain ⟨body', hbody', hsecond⟩ := patternText_group_eq_ok hsecond
  rw [hfirst, hsecond] at h
  have hends (cs : List Char) : EndsParts (')' :: cs) := ⟨')', cs, rfl, .inl rfl⟩
  -- What a capturing group holds does not start with a question mark.
  have hasked {ns : List Node} {flag : Bool} {text : String} {cs cs' : List Char} (hns : Reduced ns)
      (htext : patternTextList flag ns = .ok text) :
      text.toList ++ ')' :: cs ≠ '?' :: cs' := by
    obtain ⟨c, _, hc, hleads⟩ := hns.exists_leads htext (hends cs)
    rw [hc]
    intro h
    exact hleads.ne_question (List.cons.inj h).1
  cases b with
  | reformat => exact absurd rfl hb
  | optional =>
    cases d with
    | reformat => exact absurd rfl hd
    | capture =>
      simp only [Bracket.captures, Bool.false_eq_true, ↓reduceIte, List.cons_append,
        List.append_assoc, List.nil_append, List.cons.injEq, true_and] at h
      exact absurd h.symm (hasked hds hbody')
    | optional =>
      refine ⟨rfl, body, body', ')' :: '?' :: xs, ')' :: '?' :: ys, hbody, hbody', hends _, hends _,
        ?_, by simp⟩
      simpa [Bracket.captures] using h
  | capture =>
    cases d with
    | reformat => exact absurd rfl hd
    | optional =>
      simp only [Bracket.captures, Bool.false_eq_true, ↓reduceIte, List.cons_append,
        List.append_assoc, List.nil_append, List.cons.injEq, true_and] at h
      exact absurd h (hasked hbs hbody)
    | capture =>
      refine ⟨rfl, body, body', ')' :: xs, ')' :: ys, hbody, hbody', hends _, hends _, ?_, by simp⟩
      simpa [Bracket.captures] using h

theorem Reduced.startsAlike {text text' : String} {xs ys : List Char} (hns : Reduced ns)
    (hms : Reduced ms) (htext : patternTextList inCapture ns = .ok text)
    (htext' : patternTextList inCapture ms = .ok text') (hxs : EndsParts xs) (hys : EndsParts ys)
    (h : text.toList ++ xs = text'.toList ++ ys) : StartsAlike ms ns := by
  obtain ⟨c, cs, hc, hleads⟩ := hns.exists_leads htext hxs
  obtain ⟨c', cs', hc', hleads'⟩ := hms.exists_leads htext' hys
  rw [hc, hc'] at h
  obtain ⟨rfl, -⟩ := List.cons.inj h
  exact hleads.startsAlike hleads'

theorem Reduced.not_plain_head {text : String} {xs : List Char} (hns : Reduced ns)
    (hnext : ∀ u, ns.head? ≠ some (.literal u)) (htext : patternTextList inCapture ns = .ok text)
    (hxs : EndsParts xs) : ∀ c ∈ (text.toList ++ xs).head?, ¬ decide (c ∉ Pattern.metaChars) := by
  obtain ⟨c, cs, hc, hleads⟩ := hns.exists_leads htext hxs
  rw [hc]
  rintro _ ⟨⟩
  simpa using hleads.mem_metaChars hnext

/-- Reduced parts are recovered from their pattern, whatever stands behind the end. -/
theorem Reduced.eq_of_patternText_append_eq {text text' : String} {xs ys : List Char}
    (hns : Reduced ns) (hms : Reduced ms) (htext : patternTextList inCapture ns = .ok text)
    (htext' : patternTextList inCapture ms = .ok text') (hxs : EndsParts xs) (hys : EndsParts ys)
    (h : text.toList ++ xs = text'.toList ++ ys) : ns = ms ∧ xs = ys := by
  induction hns generalizing inCapture ms text text' xs ys with
  | nil =>
    obtain rfl : ms = [] := Reduced.nil.startsAlike hms htext htext' hxs hys h
    cases htext
    cases htext'
    exact ⟨rfl, h⟩
  | @literal t ns hne hplain hnext others ih =>
    obtain ⟨u, ms, rfl⟩ : ∃ u ms', ms = .literal u :: ms' :=
      (Reduced.literal hne hplain hnext others).startsAlike hms htext htext' hxs hys h
    cases hms with
    | literal hne' hplain' hnext' others' =>
      obtain ⟨_, rest, ⟨⟩, hrest, htext⟩ := patternTextList_cons_eq_ok htext
      obtain ⟨_, rest', ⟨⟩, hrest', htext'⟩ := patternTextList_cons_eq_ok htext'
      rw [htext, htext', List.append_assoc, List.append_assoc] at h
      -- A literal ends at the first mark of the pattern language.
      obtain ⟨hfirst, hrests⟩ := append_inj_of_stops (p := fun c => decide (c ∉ Pattern.metaChars))
        (by simpa using hplain) (by simpa using hplain')
        (others.not_plain_head hnext hrest hxs) (others'.not_plain_head hnext' hrest' hys) h
      obtain rfl := String.toList_inj.1 hfirst
      obtain ⟨rfl, hends⟩ := ih others' hrest hrest' hxs hys hrests
      exact ⟨rfl, hends⟩
  | @field f ns hone others ih =>
    obtain ⟨g, ms, rfl⟩ : ∃ g ms', ms = .field g :: ms' :=
      (Reduced.field hone others).startsAlike hms htext htext' hxs hys h
    cases hms with
    | field hone' others' =>
      obtain ⟨_, rest, ⟨⟩, hrest, htext⟩ := patternTextList_cons_eq_ok htext
      obtain ⟨_, rest', ⟨⟩, hrest', htext'⟩ := patternTextList_cons_eq_ok htext'
      rw [htext, htext', List.append_assoc, List.append_assoc] at h
      obtain ⟨hmin, hmax, hset, hrests⟩ := Field.patternText_append_inj h
      obtain rfl := Field.eq_of_repeats_eq_one hone hone' hmin hmax hset
      obtain ⟨rfl, hends⟩ := ih others' hrest hrest' hxs hys hrests
      exact ⟨rfl, hends⟩
  | @group b bs ns hb content others ihc ih =>
    obtain ⟨d, ds, ms, rfl⟩ : ∃ d ds ms', ms = .group d ds :: ms' :=
      (Reduced.group hb content others).startsAlike hms htext htext' hxs hys h
    cases hms with
    | group hd content' others' =>
      obtain ⟨first, rest, hfirst, hrest, htext⟩ := patternTextList_cons_eq_ok htext
      obtain ⟨second, rest', hsecond, hrest', htext'⟩ := patternTextList_cons_eq_ok htext'
      rw [htext, htext', List.append_assoc, List.append_assoc] at h
      obtain ⟨rfl, body, body', xs', ys', hbody, hbody', hxs', hys', hinner, hbehind⟩ :=
        patternText_group_append_inj hb hd content content' hfirst hsecond h
      obtain ⟨rfl, hclosed⟩ := ihc content' hbody hbody' hxs' hys' hinner
      obtain ⟨rfl, hends⟩ := ih others' hrest hrest' hxs hys (hbehind hclosed)
      exact ⟨rfl, hends⟩

end Node

/-! ## Layouts -/

namespace Layout

variable {l m : Layout} {s t : String}

theorem patternText_erased (h : l.patternText = .ok s) : l.erased.patternText = .ok s := by
  obtain ⟨body, hbody, -⟩ := patternText_eq_ok h
  rw [← h, patternText_of_eq_ok hbody]
  exact patternText_of_eq_ok (Node.patternTextList_erasedList hbody)

/-- Two layouts without marks of the pattern language in their literals have the same pattern if and
only if they are equal after erasing. -/
theorem patternText_eq_iff_erased_eq (hl : l.IsPlain) (hm : m.IsPlain) (hs : l.patternText = .ok s)
    (ht : m.patternText = .ok t) : s = t ↔ l.erased = m.erased := by
  constructor
  · rintro rfl
    obtain ⟨body, hbody, hs⟩ := patternText_eq_ok hs
    obtain ⟨body', hbody', ht⟩ := patternText_eq_ok ht
    have hends : Node.EndsParts ['$'] := ⟨'$', [], rfl, .inr rfl⟩
    have htexts : body.toList ++ ['$'] = body'.toList ++ ['$'] :=
      (List.cons.inj (hs.symm.trans ht)).2
    have hnodes := (Node.reduced_erasedList hl).eq_of_patternText_append_eq
      (Node.reduced_erasedList hm) (Node.patternTextList_erasedList hbody)
      (Node.patternTextList_erasedList hbody') hends hends htexts
    exact congrArg Layout.mk hnodes.1
  · intro h
    have hs' := patternText_erased hs
    rw [h, patternText_erased ht] at hs'
    exact (Except.ok.inj hs').symm

/-- A date between two literals, an empty literal, repeats, a sign and the kind of a capturing group
leave no trace. A longer field does. -/
theorem patternText_eq_iff_erased_eq_silent :
    let l : Layout := ⟨[.literal "A", .date "YY", .literal "", .literal "B",
      .group .reformat [.field ⟨1, 3, .digits, 4⟩], .group .optional [.sign]]⟩
    let m : Layout := ⟨[.literal "AB", .group .capture [.field ⟨1, 3, .digits, 1⟩],
      .group .optional []]⟩
    let n : Layout := ⟨[.literal "AB", .group .capture [.field ⟨1, 33, .digits, 1⟩],
      .group .optional []]⟩
    l.patternText = .ok "^AB([0-9]\x7b1,3\x7d)(?:)?$" ∧ l.erased = m.erased ∧
      l.erased ≠ n.erased := by
  intro l m n
  have hl : l.patternText = .ok "^AB([0-9]\x7b1,3\x7d)(?:)?$" := by decide
  have hm : m.patternText = .ok "^AB([0-9]\x7b1,3\x7d)(?:)?$" := by decide
  have hn : n.patternText = .ok "^AB([0-9]\x7b1,33\x7d)(?:)?$" := by decide
  refine ⟨hl, (patternText_eq_iff_erased_eq (by decide) (by decide) hl hm).1 rfl, ?_⟩
  exact mt (patternText_eq_iff_erased_eq (by decide) (by decide) hl hn).2 (by decide)

end Layout

end FieldLayout
