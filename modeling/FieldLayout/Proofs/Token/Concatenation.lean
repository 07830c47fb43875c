import FieldLayout.Proofs.Token.Segmentation

/-!
# The tokens of joined texts

When one text is written behind another, the tokens stay as they are, with one exception: digits or
date letters on both sides of the joint are one run, so the two tokens there become one. The tokens
behind the joint also move, by the size of the first text.

Lists that are joined in this way are called welded. Welding is stated for any kind of elements,
since parts of a layout are welded as well.

## Main definitions

* `weld`: two lists one behind the other, with the elements at the joint made one if they fuse.
* `Token.fuse?`: the token that two neighbours become.
* `Token.shift`: a token further back in a text.

## Main statements

* `weld_hom`: what is put together along a list is put together along a weld.
* `Token.scan_append`: the tokens of joined texts are welded.
-/

namespace FieldLayout

/-! ## Welded lists -/

section Weld

variable {α : Type} (fuse? : α → α → Option α)

/-- Two lists one behind the other. The last element of the first one and the first element of the
second one become one if they fuse. -/
def weld (as bs : List α) : List α :=
  match as.getLast?, bs with
  | some a, b :: rest =>
    match fuse? a b with
    | some c => as.dropLast ++ c :: rest
    | none => as ++ bs
  | _, _ => as ++ bs

variable {fuse?} {a b : α} {as bs : List α}

theorem weld_nil_left : weld fuse? [] bs = bs := rfl

theorem weld_nil_right : weld fuse? as [] = as := by
  unfold weld
  split
  · next h => cases h
  · exact List.append_nil as

theorem weld_singleton_of_eq_some {c : α} (h : fuse? a b = some c) :
    weld fuse? [a] (b :: bs) = c :: bs := by
  simp [weld, h]

/-- Only the last element of the first list takes part. -/
theorem weld_cons (h : as = [] → ∀ b ∈ bs.head?, fuse? a b = none) :
    weld fuse? (a :: as) bs = a :: weld fuse? as bs := by
  cases as with
  | nil =>
    cases bs with
    | nil => rfl
    | cons b bs => simp [weld, h rfl b rfl]
  | cons a' as =>
    cases bs with
    | nil => rw [weld_nil_right, weld_nil_right]
    | cons b bs =>
      simp only [weld, List.getLast?_cons_cons]
      split
      · split
        · rfl
        · rfl
      · rfl

theorem weld_append {front : List α} (h : as ≠ [] ∨ ∀ a ∈ front.getLast?, ∀ b, fuse? a b = none) :
    weld fuse? (front ++ as) bs = front ++ weld fuse? as bs := by
  induction front with
  | nil => rfl
  | cons x front ih =>
    rw [List.cons_append, weld_cons, ih, List.cons_append]
    · rcases h with h | h
      · exact .inl h
      · cases front with
        | nil => exact .inr nofun
        | cons y front => exact .inr (by rwa [List.getLast?_cons_cons] at h)
    · intro hnil b hb
      obtain ⟨rfl, rfl⟩ := List.append_eq_nil_iff.1 hnil
      rcases h with h | h
      · exact absurd rfl h
      · exact h x rfl b

theorem weld_of_forall_eq_none (h : ∀ a ∈ as, ∀ b ∈ bs.head?, fuse? a b = none) :
    weld fuse? as bs = as ++ bs := by
  induction as with
  | nil => rfl
  | cons a as ih =>
    obtain ⟨ha, has⟩ := List.forall_mem_cons.1 h
    rw [weld_cons fun _ => ha, ih has, List.cons_append]

/-- Either the first element stays, or it is the only one and fuses with the element behind it. -/
theorem weld_cons_cases (fuse? : α → α → Option α) (a : α) (as bs : List α) :
    ((as = [] → ∀ b ∈ bs.head?, fuse? a b = none) ∧
      weld fuse? (a :: as) bs = a :: weld fuse? as bs) ∨
    ∃ b rest c, as = [] ∧ bs = b :: rest ∧ fuse? a b = some c ∧
      weld fuse? (a :: as) bs = c :: rest := by
  by_cases h : as = [] → ∀ b ∈ bs.head?, fuse? a b = none
  · exact .inl ⟨h, weld_cons h⟩
  · push Not at h
    obtain ⟨rfl, b, hb, hfuse⟩ := h
    obtain ⟨c, hc⟩ := Option.ne_none_iff_exists'.1 hfuse
    cases bs with
    | nil => cases hb
    | cons b' rest =>
      cases hb
      exact .inr ⟨b, rest, c, rfl, rfl, hc, weld_singleton_of_eq_some hc⟩

theorem head?_weld_cons {c : α} (hc : c ∈ (weld fuse? (a :: as) bs).head?) :
    c = a ∨ ∃ b, fuse? a b = some c := by
  rcases weld_cons_cases fuse? a as bs with ⟨-, h⟩ | ⟨b, rest, d, -, -, hd, h⟩
  · rw [h] at hc
    exact .inl (Option.some.inj hc).symm
  · rw [h] at hc
    exact .inr ⟨b, hd.trans hc⟩

/-- What is put together along a list by an associative operation is put together along a weld, if
fusing two elements means to put them together. -/
theorem weld_hom {M : Type} {op : M → M → M} (hassoc : ∀ x y z, op (op x y) z = op x (op y z))
    {whole : List α → M} (single : α → M) (hnil : ∀ x, op (whole []) x = x)
    (hcons : ∀ a as, whole (a :: as) = op (single a) (whole as))
    (hfuse : ∀ a b c, fuse? a b = some c → single c = op (single a) (single b)) (as bs : List α) :
    whole (weld fuse? as bs) = op (whole as) (whole bs) := by
  induction as with
  | nil => rw [weld_nil_left, hnil]
  | cons a as ih =>
    rcases weld_cons_cases fuse? a as bs with ⟨-, h⟩ | ⟨b, rest, c, rfl, rfl, hc, h⟩
    · rw [h, hcons, ih, hcons, hassoc]
    · rw [h, hcons, hfuse a b c hc, hcons a, hcons b, hassoc, hassoc, hnil]

theorem forall_mem_weld {p : α → Prop} (hfuse : ∀ a b c, p a → p b → fuse? a b = some c → p c)
    (has : ∀ a ∈ as, p a) (hbs : ∀ b ∈ bs, p b) : ∀ c ∈ weld fuse? as bs, p c := by
  induction as with
  | nil => exact hbs
  | cons a as ih =>
    obtain ⟨ha, has⟩ := List.forall_mem_cons.1 has
    rcases weld_cons_cases fuse? a as bs with ⟨-, h⟩ | ⟨b, rest, c, rfl, rfl, hc, h⟩
    · rw [h]
      exact List.forall_mem_cons.2 ⟨ha, ih has⟩
    · obtain ⟨hb, hrest⟩ := List.forall_mem_cons.1 hbs
      rw [h]
      exact List.forall_mem_cons.2 ⟨hfuse a b c ha hb hc, hrest⟩

/-- Neighbours that do not fuse may stand behind each other, and a fused element stands for both. -/
theorem isChain_weld {r : α → α → Prop} (hnone : ∀ a b, fuse? a b = none → r a b)
    (hleft : ∀ x a b c, fuse? a b = some c → r x a → r x c)
    (hright : ∀ a b c x, fuse? a b = some c → r b x → r c x)
    (has : as.IsChain r) (hbs : bs.IsChain r) : (weld fuse? as bs).IsChain r := by
  induction as with
  | nil => exact hbs
  | cons a as ih =>
    obtain ⟨ha, has⟩ := List.isChain_cons.1 has
    rcases weld_cons_cases fuse? a as bs with ⟨hends, h⟩ | ⟨b, rest, c, rfl, rfl, hc, h⟩
    · rw [h]
      refine List.isChain_cons.2 ⟨fun x hx => ?_, ih has⟩
      cases as with
      | nil => exact hnone a x (hends rfl x hx)
      | cons a' as =>
        rcases head?_weld_cons hx with rfl | ⟨b, hb⟩
        · exact ha x rfl
        · exact hleft a a' b x hb (ha a' rfl)
    · rw [h]
      obtain ⟨hb, hrest⟩ := List.isChain_cons.1 hbs
      exact List.isChain_cons.2 ⟨fun x hx => hright a b c x hc (hb x hx), hrest⟩

end Weld

/-! ## Tokens -/

namespace Token

/-- The token that two neighbours become: digits stick to digits and date letters to date letters.
-/
def fuse? (t u : Token) : Option Token :=
  match t.lexeme, u.lexeme with
  | .number _, .number _ =>
    some ⟨.number (UInt32.ofNatClamp (Nat.ofDigitChars 10 (t.text ++ u.text).toList 0)),
      t.text ++ u.text, t.offset⟩
  | .date r, .date s => some ⟨.date (r ++ s), t.text ++ u.text, t.offset⟩
  | _, _ => none

/-- The token with `size` more bytes in front of it. -/
def shift (size : Nat) (t : Token) : Token := { t with offset := size + t.offset }

variable {t u v : Token} {ts us : List Token}

theorem fuse?_eq_some (h : t.fuse? u = some v) :
    v.text = t.text ++ u.text ∧ v.offset = t.offset ∧
      ((∃ m n k, t.lexeme = .number m ∧ u.lexeme = .number n ∧ v.lexeme = .number k) ∨
        ∃ r s, t.lexeme = .date r ∧ u.lexeme = .date s ∧ v.lexeme = .date (r ++ s)) := by
  unfold fuse? at h
  split at h
  · next m n hm hn =>
    cases h
    exact ⟨rfl, rfl, .inl ⟨m, n, _, hm, hn, rfl⟩⟩
  · next r s hr hs =>
    cases h
    exact ⟨rfl, rfl, .inr ⟨r, s, hr, hs, rfl⟩⟩
  · cases h

theorem fuse?_eq_none_iff : t.fuse? u = none ↔ t.Apart u := by
  unfold fuse? Apart
  split
  · next m n hm hn => exact iff_of_false nofun fun h => h.1 m n hm hn
  · next r s hr hs => exact iff_of_false nofun fun h => h.2 r s hr hs
  · next hnumber hdate => exact iff_of_true rfl ⟨fun m n => hnumber m n, fun r s => hdate r s⟩

theorem IsGenuine.fuse (ht : t.IsGenuine) (hu : u.IsGenuine) (h : t.fuse? u = some v) :
    v.IsGenuine := by
  have hmem : ∀ {p : Char → Prop}, (∀ c ∈ t.text.toList, p c) → (∀ c ∈ u.text.toList, p c) →
      ∀ c ∈ (t.text ++ u.text).toList, p c := by
    intro p hp hq c hc
    rw [String.toList_append, List.mem_append] at hc
    exact hc.elim (hp c) (hq c)
  unfold fuse? at h
  split at h
  · next m n hm hn =>
    rw [IsGenuine, hm] at ht
    rw [IsGenuine, hn] at hu
    cases h
    exact ⟨fun hempty => ht.1 (String.append_eq_empty_iff.1 hempty).1, hmem ht.2.1 hu.2.1, rfl⟩
  · next r s hr hs =>
    rw [IsGenuine, hr] at ht
    rw [IsGenuine, hs] at hu
    obtain ⟨rfl, hne, hletters⟩ := ht
    obtain ⟨rfl, -, hletters'⟩ := hu
    cases h
    exact ⟨rfl, fun hempty => hne (String.append_eq_empty_iff.1 hempty).1,
      hmem hletters hletters'⟩
  · cases h

theorem apart_of_fuse?_left {x : Token} (h : t.fuse? u = some v) (hx : x.Apart t) : x.Apart v := by
  obtain ⟨-, -, ⟨m, n, k, hm, -, hv⟩ | ⟨r, s, hr, -, hv⟩⟩ := fuse?_eq_some h
  · exact ⟨fun i _ hi _ => hx.1 i m hi hm, by simp [hv]⟩
  · exact ⟨by simp [hv], fun i _ hi _ => hx.2 i r hi hr⟩

theorem apart_of_fuse?_right {x : Token} (h : t.fuse? u = some v) (hx : u.Apart x) : v.Apart x := by
  obtain ⟨-, -, ⟨m, n, k, -, hn, hv⟩ | ⟨r, s, -, hs, hv⟩⟩ := fuse?_eq_some h
  · exact ⟨fun _ j _ hj => hx.1 n j hn hj, by simp [hv]⟩
  · exact ⟨by simp [hv], fun _ j _ hj => hx.2 s j hs hj⟩

theorem join_weld (ts us : List Token) : join (weld fuse? ts us) = join ts ++ join us :=
  weld_hom (fun _ _ _ => String.append_assoc) text (fun _ => String.empty_append)
    (fun _ _ => rfl) (fun _ _ _ h => (fuse?_eq_some h).1) ts us

theorem placedFrom_weld {start : Nat} (hts : PlacedFrom start ts)
    (hus : PlacedFrom (start + (join ts).utf8ByteSize) us) :
    PlacedFrom start (weld fuse? ts us) := by
  induction ts generalizing start with
  | nil => exact hus
  | cons t ts ih =>
    obtain ⟨ht, hrest⟩ := placedFrom_cons.1 hts
    rw [join, String.utf8ByteSize_append, ← Nat.add_assoc] at hus
    rcases weld_cons_cases fuse? t ts us with ⟨-, h⟩ | ⟨u, rest, v, rfl, rfl, hv, h⟩
    · rw [h]
      exact placedFrom_cons.2 ⟨ht, ih hrest hus⟩
    · obtain ⟨htext, hoffset, -⟩ := fuse?_eq_some hv
      obtain ⟨-, hbehind⟩ := placedFrom_cons.1 hus
      rw [h]
      refine placedFrom_cons.2 ⟨hoffset.trans ht, ?_⟩
      rw [htext, String.utf8ByteSize_append, ← Nat.add_assoc]
      exact hbehind

theorem join_map_shift (size : Nat) (ts : List Token) : join (ts.map (shift size)) = join ts := by
  induction ts with
  | nil => rfl
  | cons t ts ih => rw [List.map_cons, join, ih, shift, join]

theorem placedFrom_map_shift {start : Nat} (size : Nat) (h : PlacedFrom start ts) :
    PlacedFrom (size + start) (ts.map (shift size)) := by
  induction ts generalizing start with
  | nil => exact placedFrom_nil _
  | cons t ts ih =>
    obtain ⟨rfl, hrest⟩ := placedFrom_cons.1 h
    have hshifted := ih hrest
    rw [← Nat.add_assoc] at hshifted
    exact placedFrom_cons.2 ⟨rfl, hshifted⟩

/-- The tokens of joined texts are welded. -/
theorem scan_append (a b : String) :
    scan (a ++ b) = weld fuse? (scan a) ((scan b).map (shift a.utf8ByteSize)) := by
  have ha := segments_scan a
  have hb := segments_scan b
  have hgenuine : ∀ t ∈ weld fuse? (scan a) ((scan b).map (shift a.utf8ByteSize)), t.IsGenuine := by
    refine forall_mem_weld (fun _ _ _ => IsGenuine.fuse) ha.isScanned.genuine ?_
    exact List.forall_mem_map.2 hb.isScanned.genuine
  have hspelled := fun t ht => isGenuine_iff_spells.1 (hgenuine t ht)
  refine Segments.scan_eq
    ⟨fun t ht => (hspelled t ht).ne_empty, ?_, ?_, hspelled, ?_⟩
  · rw [join_weld, join_map_shift, ha.joins, hb.joins]
  · refine placedFrom_weld ha.placed ?_
    rw [ha.joins, Nat.zero_add]
    exact placedFrom_map_shift a.utf8ByteSize hb.placed
  · refine isChain_weld (fun _ _ => fuse?_eq_none_iff.1) (fun _ _ _ _ => apart_of_fuse?_left)
      (fun _ _ _ _ => apart_of_fuse?_right) ha.apart ?_
    exact (List.isChain_map _).2 hb.apart

end Token

end FieldLayout
