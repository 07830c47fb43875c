import FieldLayout.Proofs.Layout.Canonical
import FieldLayout.Proofs.Layout.FieldWalk
import FieldLayout.Proofs.Layout.Nesting
import FieldLayout.Proofs.Token.Concatenation

/-!
# Layouts of joined texts

If two texts describe layouts, so does the one written behind the other. The parts follow each other
as in the two layouts, but two dates at the joint are read as one, and so are two literals unless
the second one starts with a mark. Nothing else reaches across the joint: a layout text does not end
with a length that waits for its character set, so that neither digits nor marks of the second text
are taken for a part of the first one.

## Main definitions

* `Node.fuse?`: the part that two neighbours become.
* `Layout.weld`: the layout of two texts, one behind the other.

## Main statements

* `Node.Derives.weld`: the grammar derives welded parts from welded tokens.
* `Layout.parse_append`: the layout of joined texts; its pattern, text, groups and fields are those
  of the two layouts, one behind the other.
-/

namespace FieldLayout

/-! ## Shifted tokens -/

/-- The grammar does not look at places. -/
theorem Field.Derives.map_shift {ts : List Token} {f : Field} (h : f.Derives ts) (size : Nat) :
    f.Derives (ts.map (Token.shift size)) := by
  cases h with
  | upTo hn hfix htimes hs => exact .upTo hn hfix htimes hs
  | exactly hn hfix hs => exact .exactly hn hfix hs
  | repeated hn htimes hm hs => exact .repeated hn htimes hm hs

namespace Node

variable {t : Token} {ts us : List Token} {ns ms : List Node}

theorem Derives.map_shift (h : Derives ts ns) (size : Nat) :
    Derives (ts.map (Token.shift size)) ns := by
  induction h with
  | nil => exact .nil
  | date ht _ ih => exact .date ht ih
  | sign ht _ ih => exact .sign ht ih
  | field first _ ih =>
    rw [List.map_append]
    exact .field (first.map_shift size) ih
  | @literal t run rest ns ht hrun longest others ih =>
    rw [List.map_append, ← Token.join_map_shift size (t :: run)]
    refine .literal ht (List.forall_mem_map.2 hrun) ?_ ih
    intro u hu
    rw [List.head?_map] at hu
    obtain ⟨v, hv, rfl⟩ := Option.map_eq_some_iff.1 hu
    exact longest v hv
  | group ht content hu hflat others ihc ih =>
    rw [List.map_append]
    exact .group ht ihc hu hflat ih

/-! ## Parts at the joint -/

/-- The part that two neighbours become: dates run together, and a literal goes on into the next one
unless that one starts with a mark. -/
def fuse? : Node → Node → Option Node
  | .date r, .date s => some (.date (r ++ s))
  | .literal t, .literal u =>
    if u.toList.head?.any fun c => c != '!' && c != '*' then some (.literal (t ++ u)) else none
  | _, _ => none

theorem fuse?_eq_some {n m k : Node} (h : n.fuse? m = some k) :
    (∃ r s, n = .date r ∧ m = .date s ∧ k = .date (r ++ s)) ∨
      ∃ t u, n = .literal t ∧ m = .literal u ∧ k = .literal (t ++ u) := by
  unfold fuse? at h
  split at h
  · next r s =>
    cases h
    exact .inl ⟨r, s, rfl, rfl, rfl⟩
  · next t u =>
    split at h
    · cases h
      exact .inr ⟨t, u, rfl, rfl, rfl⟩
    · cases h
  · cases h

theorem Derives.eq_nil_iff (h : Derives ts ns) : ts = [] ↔ ns = [] := by
  cases h with
  | nil => exact iff_of_true rfl rfl
  | date | sign | literal | group => exact iff_of_false nofun nofun
  | field first =>
    obtain ⟨t, rest, n, rfl, -⟩ := first.head
    exact iff_of_false nofun nofun

/-- What the first token tells about the first part. A part that starts neither with a date nor as a
literal fuses with no part in front of it. -/
theorem Derives.head_cases (h : Derives (t :: ts) ns) :
    (∃ s ns', t.lexeme = .date s ∧ ns = .date s :: ns' ∧ Derives ts ns') ∨
    (∃ run rest ns', t.StartsLiteral ∧ ts = run ++ rest ∧ (∀ u ∈ run, u.isPlain) ∧
      (∀ u ∈ rest.head?, ¬ u.isPlain) ∧ ns = .literal (Token.join (t :: run)) :: ns' ∧
      Derives rest ns') ∨
    (¬ t.isPlain ∧ (∀ s, t.lexeme ≠ .date s) ∧ ∀ n, ∀ m ∈ ns.head?, fuse? n m = none) := by
  generalize hts : t :: ts = us at h
  cases h with
  | nil => cases hts
  | date ht others =>
    cases hts
    exact .inl ⟨_, _, ht, rfl, others⟩
  | literal ht hrun longest others =>
    cases hts
    exact .inr (.inl ⟨_, _, _, ht, rfl, hrun, longest, rfl, others⟩)
  | sign ht | group ht =>
    cases hts
    refine .inr (.inr ⟨by simp [Token.isPlain, ht], by simp [ht], ?_⟩)
    rintro n _ ⟨⟩
    cases n <;> rfl
  | field first =>
    obtain ⟨head, used, k, rfl, hk⟩ := first.head
    cases hts
    refine .inr (.inr ⟨by simp [Token.isPlain, hk], by simp [hk], ?_⟩)
    rintro n _ ⟨⟩
    cases n <;> rfl

end Node

namespace Token

variable {t : Token}

theorem fuse?_eq_none_of_ne (hnumber : ∀ n, t.lexeme ≠ .number n) (hdate : ∀ r, t.lexeme ≠ .date r)
    (u : Token) : t.fuse? u = none :=
  fuse?_eq_none_iff.2 ⟨fun n _ hn => absurd hn (hnumber n), fun r _ hr => absurd hr (hdate r)⟩

theorem StartsLiteral.of_mem_cons {run : List Token} (ht : t.StartsLiteral)
    (hrun : ∀ u ∈ run, u.isPlain) : ∀ u ∈ t :: run, u.StartsLiteral :=
  List.forall_mem_cons.2 ⟨ht, fun u hu => .inl (hrun u hu)⟩

theorem StartsLiteral.lexeme_ne (h : t.StartsLiteral) :
    (∀ n, t.lexeme ≠ .number n) ∧ ∀ r, t.lexeme ≠ .date r := by
  obtain hplain | ⟨c, hmark, -⟩ := h
  · obtain ⟨c, hc⟩ := isPlain_iff.1 hplain
    simp [hc]
  · simp [hmark]

/-- The token that names a character set is neither a number nor a date. -/
theorem IsGenuine.lexeme_ne_of_name {s : Charset} (h : t.IsGenuine) (ht : t.text = s.name) :
    (∀ n, t.lexeme ≠ .number n) ∧ ∀ r, t.lexeme ≠ .date r := by
  have hletter : s.letter ∈ t.text.toList := by
    rw [ht, Charset.name, String.toList_singleton]
    exact List.mem_singleton_self _
  constructor
  · intro n hn
    rw [IsGenuine, hn] at h
    have hdigit := h.2.1 _ hletter
    cases s <;> cases hdigit
  · intro r hr
    rw [IsGenuine, hr] at h
    have hdate := h.2.2 _ (h.1 ▸ hletter)
    cases s <;> cases hdate

end Token

theorem Field.Derives.text_getLast {ts : List Token} {f : Field} (h : f.Derives ts) :
    ∀ t ∈ ts.getLast?, t.text = f.charset.name := by
  cases h with
  | upTo _ _ _ hs | exactly _ _ hs | repeated _ _ _ hs =>
    rintro _ ⟨⟩
    exact hs

namespace Node

variable {t : Token} {ts us : List Token} {ns ms : List Node}

/-- A date in front of other parts. -/
theorem Derives.weld_date {r : String} (ht : t.lexeme = .date r) (h : Derives us ms) :
    Derives (weld Token.fuse? [t] us) (weld fuse? [.date r] ms) := by
  cases us with
  | nil =>
    obtain rfl := h.eq_nil_iff.1 rfl
    exact .date ht .nil
  | cons u us =>
    have hapart : (∀ s, u.lexeme ≠ .date s) → t.fuse? u = none := fun hu =>
      Token.fuse?_eq_none_iff.2 ⟨by simp [ht], fun _ s _ => hu s⟩
    rcases h.head_cases with ⟨s, ms', hu, rfl, others⟩ |
      ⟨run, rest, ms', hu, -, -, -, rfl, -⟩ | ⟨-, hu, hnone⟩
    · have hfuse : t.fuse? u = some ⟨.date (r ++ s), t.text ++ u.text, t.offset⟩ := by
        rw [Token.fuse?, ht, hu]
      rw [weld_singleton_of_eq_some hfuse, weld_singleton_of_eq_some rfl]
      exact .date rfl others
    · rw [weld_cons (by rintro - _ ⟨⟩; exact hapart hu.lexeme_ne.2),
        weld_cons (by rintro - _ ⟨⟩; rfl)]
      exact .date ht h
    · rw [weld_cons (by rintro - _ ⟨⟩; exact hapart hu), weld_cons fun _ => hnone (.date r)]
      exact .date ht h

/-- A literal in front of other parts. -/
theorem Derives.weld_literal {run : List Token} (ht : t.StartsLiteral) (hrun : ∀ u ∈ run, u.isPlain)
    (hus : ∀ u ∈ us, u.IsGenuine) (h : Derives us ms) :
    Derives (weld Token.fuse? (t :: run) us)
      (weld fuse? [.literal (Token.join (t :: run))] ms) := by
  have htokens : weld Token.fuse? (t :: run) us = t :: run ++ us := by
    have happend : weld Token.fuse? (t :: run ++ []) us = t :: run ++ weld Token.fuse? [] us := by
      refine weld_append (.inr fun u hu => ?_)
      have hne := (ht.of_mem_cons hrun u (List.mem_of_mem_getLast? hu)).lexeme_ne
      exact Token.fuse?_eq_none_of_ne hne.1 hne.2
    rwa [List.append_nil] at happend
  rw [htokens]
  cases us with
  | nil =>
    obtain rfl := h.eq_nil_iff.1 rfl
    exact .literal ht hrun nofun .nil
  | cons u us =>
    -- The literal stops here unless an ordinary character follows.
    have hstop : ¬ u.isPlain → (∀ m ∈ ms.head?, fuse? (.literal (Token.join (t :: run))) m = none) →
        Derives (t :: run ++ u :: us) (weld fuse? [.literal (Token.join (t :: run))] ms) := by
      intro hu hnone
      rw [weld_cons fun _ => hnone]
      refine .literal ht hrun ?_ h
      rintro _ ⟨⟩
      exact hu
    rcases h.head_cases with ⟨s, ms', hu, rfl, -⟩ |
      ⟨run', rest, ms', hu, rfl, hrun', longest, rfl, others⟩ | ⟨hu, -, hnone⟩
    · refine hstop (by simp [Token.isPlain, hu]) ?_
      rintro _ ⟨⟩
      rfl
    · obtain ⟨c, hc, hkind⟩ := hu.text_eq (hus u List.mem_cons_self)
      have hhead : (Token.join (u :: run')).toList.head? = some c := by
        rw [Token.join, String.toList_append, hc]
        rfl
      rcases hkind with ⟨hplain, hchar⟩ | ⟨hmark, hchar⟩
      · have hfuse : fuse? (.literal (Token.join (t :: run))) (.literal (Token.join (u :: run'))) =
            some (.literal (Token.join (t :: run ++ u :: run'))) := by
          have hother : c ≠ '!' ∧ c ≠ '*' := by
            constructor
            all_goals
              rintro rfl
              cases hchar
          rw [fuse?, hhead, Token.join_append]
          simp [hother]
        have hall : ∀ v ∈ run ++ u :: run', v.isPlain :=
          List.forall_mem_append.2 ⟨hrun, List.forall_mem_cons.2 ⟨hplain, hrun'⟩⟩
        have hderives := Derives.literal ht hall longest others
        rw [weld_singleton_of_eq_some hfuse]
        simpa only [List.cons_append, List.append_assoc] using hderives
      · refine hstop hmark ?_
        rintro _ ⟨⟩
        rw [fuse?, hhead]
        rcases hchar with rfl | rfl
        · rfl
        · rfl
    · exact hstop hu (hnone _)

/-- The grammar derives welded parts from welded tokens. -/
theorem Derives.weld (h : Derives ts ns) (hts : ∀ t ∈ ts, t.IsGenuine) (hus : ∀ u ∈ us, u.IsGenuine)
    (h' : Derives us ms) : Derives (weld Token.fuse? ts us) (weld fuse? ns ms) := by
  induction h with
  | nil => exact h'
  | @date t r rest ns ht others ih =>
    have hrest := ih (List.forall_mem_cons.1 hts).2
    by_cases hnil : rest = []
    · obtain rfl := others.eq_nil_iff.1 hnil
      rw [hnil]
      exact h'.weld_date ht
    · rw [weld_cons fun h => absurd h hnil, weld_cons fun h => absurd (others.eq_nil_iff.2 h) hnil]
      exact .date ht hrest
  | @sign t rest ns ht others ih =>
    have hrest := ih (List.forall_mem_cons.1 hts).2
    rw [weld_cons fun _ u _ => Token.fuse?_eq_none_of_ne (by simp [ht]) (by simp [ht]) u,
      weld_cons fun _ _ _ => rfl]
    exact .sign ht hrest
  | @field ts rest f ns first others ih =>
    obtain ⟨hfirst, hrest⟩ := List.forall_mem_append.1 hts
    have hlast : ∀ t ∈ ts.getLast?, ∀ u, t.fuse? u = none := by
      intro t ht
      have hgenuine := hfirst t (List.mem_of_mem_getLast? ht)
      have hne := hgenuine.lexeme_ne_of_name (first.text_getLast t ht)
      exact Token.fuse?_eq_none_of_ne hne.1 hne.2
    rw [weld_append (.inr hlast), weld_cons fun _ _ _ => rfl]
    exact .field first (ih hrest)
  | @literal t run rest ns ht hrun longest others ih =>
    obtain ⟨-, hrest⟩ := List.forall_mem_append.1 hts
    have hwelded := ih hrest
    cases rest with
    | nil =>
      obtain rfl := others.eq_nil_iff.1 rfl
      rw [List.append_nil]
      exact h'.weld_literal ht hrun hus
    | cons v rest =>
      have hns : ns ≠ [] := mt others.eq_nil_iff.2 (List.cons_ne_nil v rest)
      rw [weld_append (.inl (List.cons_ne_nil v rest)), weld_cons fun h => absurd h hns]
      refine .literal ht hrun (fun u hu => ?_) hwelded
      -- If the next token has become longer, it is a number or a date.
      rcases head?_weld_cons hu with rfl | ⟨w, hw⟩
      · exact longest u rfl
      · obtain ⟨-, -, ⟨_, _, k, -, -, hk⟩ | ⟨r, s, -, -, hr⟩⟩ := Token.fuse?_eq_some hw
        · simp [Token.isPlain, hk]
        · simp [Token.isPlain, hr]
  | @group t u inner rest b children ns ht content hu hflat others ihc ih =>
    obtain ⟨-, hrest⟩ := List.forall_mem_append.1 hts
    rw [weld_append (.inl (List.cons_ne_nil u rest)),
      weld_cons fun _ v _ => Token.fuse?_eq_none_of_ne (by simp [hu]) (by simp [hu]) v,
      weld_cons fun _ _ _ => rfl]
    exact .group ht content hu hflat (ih (List.forall_mem_cons.1 hrest).2)

/-! ## What is put together -/

theorem renderList_weld (ns ms : List Node) :
    renderList (weld fuse? ns ms) = renderList ns ++ renderList ms := by
  refine weld_hom (fun _ _ _ => String.append_assoc) render (fun _ => String.empty_append)
    (fun _ _ => rfl) (fun n m k h => ?_) ns ms
  rcases fuse?_eq_some h with ⟨r, s, rfl, rfl, rfl⟩ | ⟨t, u, rfl, rfl, rfl⟩
  · rfl
  · rfl

theorem captureCountList_weld (ns ms : List Node) :
    captureCountList (weld fuse? ns ms) = captureCountList ns + captureCountList ms := by
  refine weld_hom Nat.add_assoc captureCount Nat.zero_add (fun _ _ => rfl) (fun n m k h => ?_) ns ms
  rcases fuse?_eq_some h with ⟨r, s, rfl, rfl, rfl⟩ | ⟨t, u, rfl, rfl, rfl⟩
  · rfl
  · rfl

theorem fieldsList_weld (ns ms : List Node) :
    fieldsList (weld fuse? ns ms) = fieldsList ns ++ fieldsList ms := by
  refine weld_hom List.append_assoc fields List.nil_append (fun _ _ => rfl)
    (fun n m k h => ?_) ns ms
  rcases fuse?_eq_some h with ⟨r, s, rfl, rfl, rfl⟩ | ⟨t, u, rfl, rfl, rfl⟩
  · rfl
  · rfl

/-- The pattern of two stretches of parts, if both have one. -/
def appendPatterns (x y : Except Fault String) : Except Fault String :=
  x.bind fun p => y.map (p ++ ·)

theorem appendPatterns_assoc (x y z : Except Fault String) :
    appendPatterns (appendPatterns x y) z = appendPatterns x (appendPatterns y z) := by
  cases x with
  | error e => rfl
  | ok p =>
    cases y with
    | error e => rfl
    | ok q =>
      cases z with
      | error e => rfl
      | ok r => exact congrArg Except.ok String.append_assoc

theorem patternTextList_cons_eq (inCapture : Bool) (n : Node) (ns : List Node) :
    patternTextList inCapture (n :: ns) =
      appendPatterns (n.patternText inCapture) (patternTextList inCapture ns) := by
  rw [patternTextList]
  cases n.patternText inCapture with
  | error e => rfl
  | ok p => cases patternTextList inCapture ns <;> rfl

theorem patternTextList_weld (inCapture : Bool) (ns ms : List Node) :
    patternTextList inCapture (weld fuse? ns ms) =
      appendPatterns (patternTextList inCapture ns) (patternTextList inCapture ms) := by
  refine weld_hom appendPatterns_assoc (patternText inCapture) (fun x => ?_)
    (patternTextList_cons_eq inCapture) (fun n m k h => ?_) ns ms
  · cases x with
    | error e => rfl
    | ok p => exact congrArg Except.ok String.empty_append
  · rcases fuse?_eq_some h with ⟨r, s, rfl, rfl, rfl⟩ | ⟨t, u, rfl, rfl, rfl⟩
    · rfl
    · rfl

end Node

/-! ## Layouts -/

namespace Layout

/-- The parts of two layouts, one behind the other, where the parts at the joint become one if they
fuse. -/
def weld (l m : Layout) : Layout := ⟨FieldLayout.weld Node.fuse? l.nodes m.nodes⟩

theorem parse_append_eq_weld {a b : String} {l m : Layout} (hl : parse a = .ok l)
    (hm : parse b = .ok m) : parse (a ++ b) = .ok (l.weld m) := by
  rw [parse_eq_ok_iff_derives] at hl hm ⊢
  rw [Token.scan_append]
  refine hl.weld (Token.isScanned_scan a).genuine ?_ (hm.map_shift a.utf8ByteSize)
  exact List.forall_mem_map.2 (Token.isScanned_scan b).genuine

/-- A text behind another one describes the parts of both. Their patterns, texts, capturing groups
and fields follow each other in the same way. -/
theorem parse_append {a b : String} {l m : Layout} (hl : parse a = .ok l) (hm : parse b = .ok m) :
    parse (a ++ b) = .ok (l.weld m) ∧
      (∃ p q, (parse a).bind patternText = .ok ("^" ++ p ++ "$") ∧
        (parse b).bind patternText = .ok ("^" ++ q ++ "$") ∧
        (parse (a ++ b)).bind patternText = .ok ("^" ++ p ++ q ++ "$")) ∧
      (l.weld m).render = l.render ++ m.render ∧
      (l.weld m).captureCount = l.captureCount + m.captureCount ∧
      (l.weld m).fieldCursor.toList = l.fieldCursor.toList ++ m.fieldCursor.toList := by
  have hweld := parse_append_eq_weld hl hm
  refine ⟨hweld, ?_, Node.renderList_weld l.nodes m.nodes,
    Node.captureCountList_weld l.nodes m.nodes, ?_⟩
  · obtain ⟨p, hp⟩ := exists_patternTextList_of_parse hl
    obtain ⟨q, hq⟩ := exists_patternTextList_of_parse hm
    have hpq : Node.patternTextList false (l.weld m).nodes = .ok (p ++ q) := by
      rw [weld, Node.patternTextList_weld, hp, hq]
      rfl
    have hpattern := patternText_of_eq_ok hpq
    rw [← String.append_assoc] at hpattern
    refine ⟨p, q, ?_, ?_, ?_⟩
    · rw [hl]
      exact patternText_of_eq_ok hp
    · rw [hm]
      exact patternText_of_eq_ok hq
    · rw [hweld]
      exact hpattern
  · rw [toList_fieldCursor, toList_fieldCursor, toList_fieldCursor]
    exact Node.fieldsList_weld l.nodes m.nodes

/-- A date that goes on behind the joint. -/
theorem parse_append_date :
    let l : Layout := ⟨[.group .capture [.field ⟨4, 4, .alphanumeric, 1⟩], .date "YY"]⟩
    let m : Layout := ⟨[.date "MM", .group .optional [.sign]]⟩
    let joined : Layout := ⟨[.group .capture [.field ⟨4, 4, .alphanumeric, 1⟩], .date "YYMM",
      .group .optional [.sign]]⟩
    parse "(4!c)YY" = .ok l ∧ parse "MM[N]" = .ok m ∧ parse ("(4!c)YY" ++ "MM[N]") = .ok joined ∧
      (∃ p q, (parse "(4!c)YY").bind patternText = .ok ("^" ++ p ++ "$") ∧
        (parse "MM[N]").bind patternText = .ok ("^" ++ q ++ "$") ∧
        (parse ("(4!c)YY" ++ "MM[N]")).bind patternText = .ok ("^" ++ p ++ q ++ "$")) ∧
      joined.render = l.render ++ m.render ∧
      joined.captureCount = l.captureCount + m.captureCount ∧
      joined.fieldCursor.toList = l.fieldCursor.toList ++ m.fieldCursor.toList := by
  intro l m joined
  have hl : parse "(4!c)YY" = .ok l := by decide +kernel
  have hm : parse "MM[N]" = .ok m := by decide +kernel
  have hjoined : l.weld m = joined := by decide
  have happend := parse_append hl hm
  rw [hjoined] at happend
  exact ⟨hl, hm, happend⟩

end Layout

end FieldLayout
