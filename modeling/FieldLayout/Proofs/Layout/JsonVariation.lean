import FieldLayout.Proofs.Layout.JsonRoundTrip
import Mathlib.Data.List.Perm.Basic
import Mathlib.Logic.Relation

/-!
# Other ways to write a layout as data

A reader of data values is liberal. Keys come in any order, unknown keys do no harm, and some values
can be written in two ways. Such changes are allowed only in certain places: the object of a part
has one key, and the content of a group is never a list. Here the changes are told one by one, each
at its place, and no number of them changes the layout that is read.

What matters for a reader is which value a key has, as long as it has only one. This is kept by all
changes, so the proof does not look for members in the order in which they stand.

## Main definitions

* `Json.Reorders`: an object at any depth has its members in another order.
* `Field.Varies`, `Node.Varies`, `Layout.Varies`: one allowed change.
* `Layout.Written`: the data values of a layout, whatever the order of keys.

## Main statements

* `Layout.written_of_ofJson?`, `Layout.ofJson?_of_written`: these are the values that are read.
* `Layout.Written.varies`: a change leads from one of them to another one.
* `Layout.ofJson?_of_varies`: no number of changes changes the layout that is read.
-/

namespace FieldLayout

/-! ## Changes -/

namespace Json

mutual

/-- No object has a key twice, at any depth. -/
def distinctKeys : Json → Bool
  | .arr items => distinctKeysItems items
  | .obj members => (members.map Prod.fst).Nodup && distinctKeysMembers members
  | .null | .bool _ | .nat _ | .otherNumber | .str _ => true

/-- No object in a list has a key twice. -/
def distinctKeysItems : List Json → Bool
  | [] => true
  | j :: js => distinctKeys j && distinctKeysItems js

/-- No object in the values of members has a key twice. -/
def distinctKeysMembers : List (String × Json) → Bool
  | [] => true
  | (_, j) :: rest => distinctKeys j && distinctKeysMembers rest

end

/-- The members of one object are put into another order, at any depth. -/
inductive Reorders : Json → Json → Prop
  | refl (j : Json) : Reorders j j
  | members {ms ms' : List (String × Json)} (h : ms.Perm ms') : Reorders (.obj ms) (.obj ms')
  | value {before behind : List (String × Json)} {key : String} {j j' : Json} (h : Reorders j j') :
      Reorders (.obj (before ++ (key, j) :: behind)) (.obj (before ++ (key, j') :: behind))
  | item {before behind : List Json} {j j' : Json} (h : Reorders j j') :
      Reorders (.arr (before ++ j :: behind)) (.arr (before ++ j' :: behind))

end Json

/-- A change of the value of a field. -/
inductive Field.Varies : Json → Json → Prop
  /-- An unknown key is added. -/
  | extra {before behind : List (String × Json)} {key : String} (value : Json)
      (hkey : key ∉ ["min", "max", "charset", "repeat"]) :
      Varies (.obj (before ++ behind)) (.obj (before ++ (key, value) :: behind))
  /-- A list of the four values takes the place of the object. -/
  | list {ms : List (String × Json)} {min max charset repeats : Json} (hmin : ("min", min) ∈ ms)
      (hmax : ("max", max) ∈ ms) (hcharset : ("charset", charset) ∈ ms)
      (hrepeats : ("repeat", repeats) ∈ ms) :
      Varies (.obj ms) (.arr [min, max, charset, repeats])
  /-- The name of the set becomes the key of null. -/
  | charset {before behind : List (String × Json)} {name : String} :
      Varies (.obj (before ++ ("charset", .str name) :: behind))
        (.obj (before ++ ("charset", .obj [(name, .null)]) :: behind))
  /-- The same in a list. -/
  | charsetItem {min max repeats : Json} {name : String} :
      Varies (.arr [min, max, .str name, repeats]) (.arr [min, max, .obj [(name, .null)], repeats])

/-- A change of one of several parts. -/
inductive Node.Varies : List Json → List Json → Prop
  | behind (j : Json) {js js' : List Json} (h : Varies js js') : Varies (j :: js) (j :: js')
  /-- The name of the sign becomes the key of null. -/
  | sign {js : List Json} : Varies (.str "sign" :: js) (.obj [("sign", .null)] :: js)
  | field {j j' : Json} {js : List Json} (h : Field.Varies j j') :
      Varies (.obj [("field", j)] :: js) (.obj [("field", j')] :: js)
  /-- An unknown key is added to the content of a group. -/
  | extra {before behind : List (String × Json)} {key : String} (value : Json) {js : List Json}
      (hkey : key ∉ ["kind", "children"]) :
      Varies (.obj [("group", .obj (before ++ behind))] :: js)
        (.obj [("group", .obj (before ++ (key, value) :: behind))] :: js)
  /-- The name of the kind of a group becomes the key of null. -/
  | kind {before behind : List (String × Json)} {name : String} {js : List Json} :
      Varies (.obj [("group", .obj (before ++ ("kind", .str name) :: behind))] :: js)
        (.obj [("group", .obj (before ++ ("kind", .obj [(name, .null)]) :: behind))] :: js)
  /-- A part of a group changes. -/
  | children {before behind : List (String × Json)} {items items' js : List Json}
      (h : Varies items items') :
      Varies (.obj [("group", .obj (before ++ ("children", .arr items) :: behind))] :: js)
        (.obj [("group", .obj (before ++ ("children", .arr items') :: behind))] :: js)

/-- A change of the value of a layout. -/
inductive Layout.Varies : Json → Json → Prop
  /-- Keys are put into another order, in any object. -/
  | reorders {j j' : Json} (h : Json.Reorders j j') : Varies j j'
  /-- An unknown key is added. -/
  | extra {before behind : List (String × Json)} {key : String} (value : Json)
      (hkey : key ≠ "format") :
      Varies (.obj (before ++ behind)) (.obj (before ++ (key, value) :: behind))
  /-- A list takes the place of the object. -/
  | list {ms : List (String × Json)} {parts : Json} (hparts : ("format", parts) ∈ ms) :
      Varies (.obj ms) (.arr [parts])
  /-- A part changes. -/
  | parts {before behind : List (String × Json)} {items items' : List Json}
      (h : Node.Varies items items') :
      Varies (.obj (before ++ ("format", .arr items) :: behind))
        (.obj (before ++ ("format", .arr items') :: behind))
  /-- The same in a list. -/
  | partsItem {items items' : List Json} (h : Node.Varies items items') :
      Varies (.arr [.arr items]) (.arr [.arr items'])

/-! ## Keys -/

namespace Json

/-- A key stands in an object once, with the value. -/
def Holds (key : String) (ms : List (String × Json)) (j : Json) : Prop :=
  ms.filter (fun m => m.1 == key) = [(key, j)]

variable {key : String} {ms ms' before behind : List (String × Json)} {j j' : Json}

theorem Holds.member?_eq (h : Holds key ms j) : member? key ms = some j := by
  induction ms with
  | nil => cases h
  | cons m ms ih =>
    obtain ⟨k, v⟩ := m
    rw [member?]
    by_cases hk : k = key
    · rw [if_pos hk]
      rw [Holds, List.filter_cons_of_pos (by simpa using hk)] at h
      rw [(Prod.mk.inj (List.cons.inj h).1).2]
    · rw [if_neg hk]
      rw [Holds, List.filter_cons_of_neg (by simpa using hk)] at h
      exact ih h

theorem holds_of_member? (hdistinct : (ms.map Prod.fst).Nodup) (h : member? key ms = some j) :
    Holds key ms j := by
  induction ms with
  | nil => cases h
  | cons m ms ih =>
    obtain ⟨k, v⟩ := m
    obtain ⟨hfirst, hothers⟩ := List.nodup_cons.1 hdistinct
    rw [member?] at h
    by_cases hk : k = key
    · rw [if_pos hk] at h
      cases h
      subst hk
      have hnone : ms.filter (fun m => m.1 == k) = [] := by
        rw [List.filter_eq_nil_iff]
        intro m hm hmk
        have hkey : m.1 ∈ ms.map Prod.fst := List.mem_map_of_mem hm
        rw [beq_iff_eq.1 hmk] at hkey
        exact hfirst hkey
      rw [Holds, List.filter_cons_of_pos (by simp), hnone]
    · rw [if_neg hk] at h
      rw [Holds, List.filter_cons_of_neg (by simpa using hk)]
      exact ih hothers h

theorem distinctKeys_of_member? (hdistinct : distinctKeysMembers ms) (h : member? key ms = some j) :
    j.distinctKeys := by
  induction ms with
  | nil => cases h
  | cons m ms ih =>
    obtain ⟨k, v⟩ := m
    rw [distinctKeysMembers, Bool.and_eq_true] at hdistinct
    rw [member?] at h
    split at h
    · cases h
      exact hdistinct.1
    · exact ih hdistinct.2 h

theorem distinctKeys_obj_iff : (Json.obj ms).distinctKeys ↔
    (ms.map Prod.fst).Nodup ∧ distinctKeysMembers ms := by
  rw [distinctKeys, Bool.and_eq_true, decide_eq_true_iff]

theorem distinctKeys_of_single (h : (Json.obj [(key, j)]).distinctKeys) : j.distinctKeys := by
  have hvalues := (distinctKeys_obj_iff.1 h).2
  rw [distinctKeysMembers, Bool.and_eq_true] at hvalues
  exact hvalues.1

theorem Holds.eq_of_mem (h : Holds key ms j) (hmem : (key, j') ∈ ms) : j' = j := by
  have hfilter : (key, j') ∈ ms.filter fun m => m.1 == key :=
    List.mem_filter.2 ⟨hmem, beq_self_eq_true key⟩
  rw [h, List.mem_singleton] at hfilter
  exact (Prod.mk.inj hfilter).2

theorem Holds.perm (h : Holds key ms j) (hperm : ms.Perm ms') : Holds key ms' j := by
  have hfilter := hperm.filter fun m => m.1 == key
  rw [h] at hfilter
  exact (List.singleton_perm.1 hfilter).symm

theorem Holds.extra {k : String} {value : Json} (h : Holds key (before ++ behind) j)
    (hk : k ≠ key) : Holds key (before ++ (k, value) :: behind) j := by
  rw [Holds, List.filter_append, List.filter_cons_of_neg (by simpa using hk), ← List.filter_append]
  exact h

theorem Holds.replace_other {k : String} {value value' : Json}
    (h : Holds key (before ++ (k, value) :: behind) j) (hk : k ≠ key) :
    Holds key (before ++ (k, value') :: behind) j := by
  rw [Holds, List.filter_append, List.filter_cons_of_neg (by simpa using hk)] at h ⊢
  exact h

theorem Holds.replace {value : Json} (h : Holds key (before ++ (key, value) :: behind) j) :
    j = value ∧ ∀ value', Holds key (before ++ (key, value') :: behind) value' := by
  obtain rfl : value = j := h.eq_of_mem (List.mem_append_right _ List.mem_cons_self)
  refine ⟨rfl, fun value' => ?_⟩
  rw [Holds, List.filter_append, List.filter_cons_of_pos (by simp)] at h ⊢
  -- The key stands only here.
  cases hbefore : before.filter fun m => m.1 == key with
  | nil =>
    rw [hbefore] at h
    rw [(List.cons.inj h).2]
    rfl
  | cons m ms =>
    have hlength := congrArg List.length h
    rw [hbefore] at hlength
    simp at hlength

/-! ## Orders of keys -/

/-- What a key has is found in any order, with its own members in some order. -/
theorem Reorders.holds (h : Reorders (.obj ms) j') : ∃ ms', j' = .obj ms' ∧
    ∀ key j, Holds key ms j → ∃ j', Holds key ms' j' ∧ Reorders j j' := by
  generalize hms : Json.obj ms = o at h
  cases h with
  | refl => exact ⟨ms, hms.symm, fun key j hj => ⟨j, hj, .refl j⟩⟩
  | members hperm =>
    cases hms
    exact ⟨_, rfl, fun key j hj => ⟨j, hj.perm hperm, .refl j⟩⟩
  | @value before behind k v v' hv =>
    cases hms
    refine ⟨_, rfl, fun key j hj => ?_⟩
    by_cases hk : k = key
    · subst hk
      obtain ⟨rfl, hreplace⟩ := hj.replace
      exact ⟨v', hreplace v', hv⟩
    · exact ⟨j, hj.replace_other hk, .refl j⟩
  | item => cases hms

theorem Reorders.single (h : Reorders (.obj [(key, j)]) j') :
    ∃ v, j' = .obj [(key, v)] ∧ Reorders j v := by
  generalize hms : Json.obj [(key, j)] = o at h
  cases h with
  | refl => exact ⟨j, hms.symm, .refl j⟩
  | members hperm =>
    cases hms
    rw [← List.singleton_perm.1 hperm]
    exact ⟨j, rfl, .refl j⟩
  | @value before behind k v v' hv =>
    have hms := Json.obj.inj hms
    cases before with
    | nil =>
      cases hms
      exact ⟨v', rfl, hv⟩
    | cons m before => simp at hms
  | item => cases hms

theorem Reorders.items {items : List Json} (h : Reorders (.arr items) j') :
    ∃ items', j' = .arr items' ∧ List.Forall₂ Reorders items items' := by
  have hsame (js : List Json) : List.Forall₂ Reorders js js :=
    List.forall₂_same.2 fun j _ => .refl j
  generalize hitems : Json.arr items = o at h
  cases h with
  | refl => exact ⟨items, hitems.symm, hsame items⟩
  | members | value => cases hitems
  | @item before behind v v' hv =>
    cases hitems
    exact ⟨_, rfl, List.rel_append (hsame before) (.cons hv (hsame behind))⟩

theorem Reorders.tag?_eq {name : String} (h : Reorders j j') (hname : j.tag? = some name) :
    j' = j := by
  unfold tag? at hname
  split at hname
  · cases h
    rfl
  · obtain ⟨v, rfl, hv⟩ := h.single
    cases hv
    rfl
  · cases hname

theorem Reorders.uint32?_eq {n : UInt32} (h : Reorders j j') (hn : j.uint32? = some n) :
    j' = j := by
  unfold uint32? at hn
  split at hn
  · cases h
    rfl
  · cases hn

end Json

/-! ## Fields -/

namespace Field

/-- The values of a field: an object in which each of its keys stands once, or a list. -/
inductive Written (f : Field) : Json → Prop
  | object {ms : List (String × Json)} {min max charset repeats : Json}
      (hmin : Json.Holds "min" ms min) (hmax : Json.Holds "max" ms max)
      (hcharset : Json.Holds "charset" ms charset) (hrepeats : Json.Holds "repeat" ms repeats)
      (h : ofValues? min max charset repeats = some f) : Written f (.obj ms)
  | list {min max charset repeats : Json} (h : ofValues? min max charset repeats = some f) :
      Written f (.arr [min, max, charset, repeats])

variable {f : Field} {j j' : Json}

theorem ofJson?_of_written (h : f.Written j) : ofJson? j = some f := by
  cases h with
  | object hmin hmax hcharset hrepeats h =>
    simp [ofJson?, hmin.member?_eq, hmax.member?_eq, hcharset.member?_eq, hrepeats.member?_eq, h]
  | list h => exact h

theorem written_of_ofJson? (hdistinct : j.distinctKeys) (h : ofJson? j = some f) :
    f.Written j := by
  unfold ofJson? at h
  split at h
  · next ms =>
    have hkeys := (Json.distinctKeys_obj_iff.1 hdistinct).1
    simp only [Option.bind_eq_bind, Option.bind_eq_some_iff] at h
    obtain ⟨min, hmin, max, hmax, charset, hcharset, repeats, hrepeats, h⟩ := h
    exact .object (Json.holds_of_member? hkeys hmin) (Json.holds_of_member? hkeys hmax)
      (Json.holds_of_member? hkeys hcharset) (Json.holds_of_member? hkeys hrepeats) h
  · exact .list h
  · cases h

/-- The values of a field have no members to put into another order, but for a name as the key of
null. -/
theorem ofValues?_of_reorders {min min' max max' charset charset' repeats repeats' : Json}
    (h : ofValues? min max charset repeats = some f) (hmin : Json.Reorders min min')
    (hmax : Json.Reorders max max') (hcharset : Json.Reorders charset charset')
    (hrepeats : Json.Reorders repeats repeats') :
    ofValues? min' max' charset' repeats' = some f := by
  have hvalues := h
  simp only [ofValues?, Option.bind_eq_bind, Option.bind_eq_some_iff] at hvalues
  obtain ⟨a, ha, b, hb, s, hs, d, hd, -⟩ := hvalues
  obtain ⟨name, hname, -⟩ := Option.bind_eq_some_iff.1 hs
  rw [hmin.uint32?_eq ha, hmax.uint32?_eq hb, hcharset.tag?_eq hname, hrepeats.uint32?_eq hd]
  exact h

theorem Written.reorders (h : f.Written j) (hreorders : Json.Reorders j j') : f.Written j' := by
  cases h with
  | object hmin hmax hcharset hrepeats h =>
    obtain ⟨ms', rfl, hholds⟩ := hreorders.holds
    obtain ⟨min', hmin', hmins⟩ := hholds "min" _ hmin
    obtain ⟨max', hmax', hmaxs⟩ := hholds "max" _ hmax
    obtain ⟨charset', hcharset', hcharsets⟩ := hholds "charset" _ hcharset
    obtain ⟨repeats', hrepeats', hrepeatss⟩ := hholds "repeat" _ hrepeats
    exact .object hmin' hmax' hcharset' hrepeats'
      (ofValues?_of_reorders h hmins hmaxs hcharsets hrepeatss)
  | list h =>
    obtain ⟨items', rfl, hitems⟩ := hreorders.items
    cases hitems with
    | cons hmin hitems =>
      cases hitems with
      | cons hmax hitems =>
        cases hitems with
        | cons hcharset hitems =>
          cases hitems with
          | cons hrepeats hitems =>
            cases hitems
            exact .list (ofValues?_of_reorders h hmin hmax hcharset hrepeats)

theorem Written.varies (h : f.Written j) (hvaries : Varies j j') : f.Written j' := by
  cases hvaries with
  | extra value hkey =>
    simp only [List.mem_cons, List.not_mem_nil, or_false, not_or] at hkey
    obtain ⟨hnmin, hnmax, hncharset, hnrepeat⟩ := hkey
    cases h with
    | object hmin hmax hcharset hrepeats h =>
      exact .object (hmin.extra hnmin) (hmax.extra hnmax) (hcharset.extra hncharset)
        (hrepeats.extra hnrepeat) h
  | list hmin' hmax' hcharset' hrepeats' =>
    cases h with
    | object hmin hmax hcharset hrepeats h =>
      rw [hmin.eq_of_mem hmin', hmax.eq_of_mem hmax', hcharset.eq_of_mem hcharset',
        hrepeats.eq_of_mem hrepeats']
      exact .list h
  | @charset before behind name =>
    cases h with
    | object hmin hmax hcharset hrepeats h =>
      obtain ⟨rfl, hreplace⟩ := hcharset.replace
      exact .object (hmin.replace_other (by decide)) (hmax.replace_other (by decide)) (hreplace _)
        (hrepeats.replace_other (by decide)) h
  | charsetItem =>
    cases h with
    | list h => exact .list h

end Field

/-! ## Parts -/

namespace Node

/-- The values of consecutive parts. In the content of a group each of the two keys stands once. -/
inductive Written : List Node → List Json → Prop
  | nil : Written [] []
  | sign {j : Json} {ns : List Node} {js : List Json} (hj : j.tag? = some "sign")
      (others : Written ns js) : Written (.sign :: ns) (j :: js)
  | literal {text : String} {ns : List Node} {js : List Json} (others : Written ns js) :
      Written (.literal text :: ns) (.obj [("literal", .str text)] :: js)
  | date {run : String} {ns : List Node} {js : List Json} (others : Written ns js) :
      Written (.date run :: ns) (.obj [("date", .str run)] :: js)
  | field {f : Field} {j : Json} {ns : List Node} {js : List Json} (hf : f.Written j)
      (others : Written ns js) : Written (.field f :: ns) (.obj [("field", j)] :: js)
  | group {b : Bracket} {children ns : List Node} {ms : List (String × Json)} {kind : Json}
      {items js : List Json} (hkind : Json.Holds "kind" ms kind)
      (hb : Bracket.ofJson? kind = some b) (hitems : Json.Holds "children" ms (.arr items))
      (content : Written children items) (others : Written ns js) :
      Written (.group b children :: ns) (.obj [("group", .obj ms)] :: js)

variable {ns : List Node} {js js' : List Json}

theorem childrenOfJson?_eq_some_iff {ms : List (String × Json)} {children : List Node} :
    childrenOfJson? ms = some children ↔
      ∃ items, Json.member? "children" ms = some (.arr items) ∧
        listOfJson? items = some children := by
  induction ms with
  | nil => simp [childrenOfJson?, Json.member?]
  | cons m ms ih =>
    obtain ⟨key, j⟩ := m
    unfold childrenOfJson? Json.member?
    by_cases hkey : key = "children"
    · rw [if_pos hkey, if_pos hkey]
      cases j <;> simp
    · rw [if_neg hkey, if_neg hkey, ih]

theorem groupOfJson?_eq_some_iff {ms : List (String × Json)} {n : Node} :
    groupOfJson? (.obj ms) = some n ↔ ∃ kind b items children,
      Json.member? "kind" ms = some kind ∧ Bracket.ofJson? kind = some b ∧
      Json.member? "children" ms = some (.arr items) ∧ listOfJson? items = some children ∧
      n = .group b children := by
  rw [groupOfJson?]
  simp only [Option.bind_eq_bind, Option.bind_eq_some_iff, childrenOfJson?_eq_some_iff]
  constructor
  · rintro ⟨b, ⟨kind, hkind, hb⟩, children, ⟨items, hitems, hchildren⟩, hn⟩
    exact ⟨kind, b, items, children, hkind, hb, hitems, hchildren, (Option.some.inj hn).symm⟩
  · rintro ⟨kind, b, items, children, hkind, hb, hitems, hchildren, rfl⟩
    exact ⟨b, ⟨kind, hkind, hb⟩, children, ⟨items, hitems, hchildren⟩, rfl⟩

theorem ofJson?_of_tag? {j : Json} (h : j.tag? = some "sign") : ofJson? j = some .sign := by
  unfold Json.tag? at h
  split at h
  · cases h
    rfl
  · cases h
    rfl
  · cases h

theorem listOfJson?_of_written (h : Written ns js) : listOfJson? js = some ns := by
  induction h with
  | nil => rfl
  | sign hj others ih => exact listOfJson?_cons (ofJson?_of_tag? hj) ih
  | literal others ih | date others ih => exact listOfJson?_cons rfl ih
  | @field f j ns js hf others ih =>
    have hfield : ofJson? (.obj [("field", j)]) = (Field.ofJson? j).map .field := rfl
    rw [Field.ofJson?_of_written hf] at hfield
    exact listOfJson?_cons hfield ih
  | @group b children ns ms kind items js hkind hb hitems content others ihc ih =>
    have hgroup : ofJson? (.obj [("group", .obj ms)]) = groupOfJson? (.obj ms) := rfl
    rw [groupOfJson?_eq_some_iff.2 ⟨kind, b, items, children, hkind.member?_eq, hb,
      hitems.member?_eq, ihc, rfl⟩] at hgroup
    exact listOfJson?_cons hgroup ih

/-- The data values of each kind of part. -/
theorem ofJson?_eq_some {j : Json} {n : Node} (h : ofJson? j = some n) :
    (j.tag? = some "sign" ∧ n = .sign) ∨
    (∃ text, j = .obj [("literal", .str text)] ∧ n = .literal text) ∨
    (∃ run, j = .obj [("date", .str run)] ∧ n = .date run) ∨
    (∃ content f, j = .obj [("field", content)] ∧ Field.ofJson? content = some f ∧
      n = .field f) ∨
    ∃ ms, j = .obj [("group", .obj ms)] ∧ groupOfJson? (.obj ms) = some n := by
  unfold ofJson? at h
  split at h
  · next name =>
    split at h
    · next hname =>
      cases h
      exact .inl ⟨congrArg some hname, rfl⟩
    · cases h
  · next key content =>
    by_cases hsign : key = "sign"
    · rw [if_pos hsign] at h
      split at h
      · cases h
        exact .inl ⟨congrArg some hsign, rfl⟩
      · cases h
    rw [if_neg hsign] at h
    by_cases hliteral : key = "literal"
    · rw [if_pos hliteral] at h
      split at h
      · next text =>
        cases h
        exact .inr (.inl ⟨text, by rw [hliteral], rfl⟩)
      · cases h
    rw [if_neg hliteral] at h
    by_cases hdate : key = "date"
    · rw [if_pos hdate] at h
      split at h
      · next run =>
        cases h
        exact .inr (.inr (.inl ⟨run, by rw [hdate], rfl⟩))
      · cases h
    rw [if_neg hdate] at h
    by_cases hfield : key = "field"
    · rw [if_pos hfield] at h
      obtain ⟨f, hf, rfl⟩ := Option.map_eq_some_iff.1 h
      exact .inr (.inr (.inr (.inl ⟨content, f, by rw [hfield], hf, rfl⟩)))
    rw [if_neg hfield] at h
    by_cases hgroup : key = "group"
    · rw [if_pos hgroup] at h
      cases content with
      | obj ms => exact .inr (.inr (.inr (.inr ⟨ms, by rw [hgroup], h⟩)))
      | null | bool | nat | otherNumber | str | arr => cases h
    · rw [if_neg hgroup] at h
      cases h
  · cases h

/-- A part in front of others, if the parts of a group are known to be written. -/
theorem Written.of_ofJson? {j : Json} {n : Node} (hdistinct : j.distinctKeys)
    (hj : ofJson? j = some n)
    (hchildren : ∀ b children items, n = .group b children → Json.distinctKeysItems items →
      listOfJson? items = some children → Written children items)
    (others : Written ns js) : Written (n :: ns) (j :: js) := by
  rcases ofJson?_eq_some hj with ⟨hsign, rfl⟩ | ⟨text, rfl, rfl⟩ | ⟨run, rfl, rfl⟩ |
    ⟨content, f, rfl, hf, rfl⟩ | ⟨ms, rfl, hgroup⟩
  · exact .sign hsign others
  · exact .literal others
  · exact .date others
  · have hcontent := Json.distinctKeys_of_single hdistinct
    exact .field (Field.written_of_ofJson? hcontent hf) others
  · obtain ⟨hkeys, hvalues⟩ := Json.distinctKeys_obj_iff.1 (Json.distinctKeys_of_single hdistinct)
    obtain ⟨kind, b, items, children, hkind, hb, hitems, hlist, rfl⟩ :=
      groupOfJson?_eq_some_iff.1 hgroup
    have hcontent : Json.distinctKeysItems items := by
      have harr := Json.distinctKeys_of_member? hvalues hitems
      rwa [Json.distinctKeys] at harr
    exact .group (Json.holds_of_member? hkeys hkind) hb (Json.holds_of_member? hkeys hitems)
      (hchildren b children items rfl hcontent hlist) others

theorem listOfJson?_eq_some_cons {n : Node} (h : listOfJson? js = some (n :: ns)) :
    ∃ j js', js = j :: js' ∧ ofJson? j = some n ∧ listOfJson? js' = some ns := by
  cases js with
  | nil => cases h
  | cons j js =>
    simp only [listOfJson?, Option.bind_eq_bind, Option.bind_eq_some_iff] at h
    obtain ⟨m, hm, ms, hms, h⟩ := h
    cases h
    exact ⟨j, js, rfl, hm, hms⟩

theorem written_of_listOfJson? (hdistinct : Json.distinctKeysItems js)
    (h : listOfJson? js = some ns) : Written ns js := by
  -- The induction is on the parts that are read: those of a group come from its list of children.
  induction ns using Node.sequence_induction generalizing js with
  | nil =>
    cases js with
    | nil => exact .nil
    | cons j js => simp [listOfJson?, Option.bind_eq_some_iff] at h
  | literal _ ns ih | field _ ns ih | date _ ns ih | sign ns ih =>
    obtain ⟨j, js, rfl, hj, hjs⟩ := listOfJson?_eq_some_cons h
    rw [Json.distinctKeysItems, Bool.and_eq_true] at hdistinct
    exact .of_ofJson? hdistinct.1 hj (by rintro _ _ _ ⟨⟩) (ih hdistinct.2 hjs)
  | group b children ns ihc ih =>
    obtain ⟨j, js, rfl, hj, hjs⟩ := listOfJson?_eq_some_cons h
    rw [Json.distinctKeysItems, Bool.and_eq_true] at hdistinct
    refine .of_ofJson? hdistinct.1 hj ?_ (ih hdistinct.2 hjs)
    rintro _ _ items ⟨⟩ hitems hlist
    exact ihc hitems hlist

theorem Written.reorders (h : Written ns js) (hreorders : List.Forall₂ Json.Reorders js js') :
    Written ns js' := by
  induction h generalizing js' with
  | nil =>
    cases hreorders
    exact .nil
  | sign hj others ih =>
    cases hreorders with
    | cons hfirst hothers =>
      rw [hfirst.tag?_eq hj]
      exact .sign hj (ih hothers)
  | literal others ih =>
    cases hreorders with
    | cons hfirst hothers =>
      obtain ⟨v, rfl, hv⟩ := hfirst.single
      cases hv
      exact .literal (ih hothers)
  | date others ih =>
    cases hreorders with
    | cons hfirst hothers =>
      obtain ⟨v, rfl, hv⟩ := hfirst.single
      cases hv
      exact .date (ih hothers)
  | field hf others ih =>
    cases hreorders with
    | cons hfirst hothers =>
      obtain ⟨v, rfl, hv⟩ := hfirst.single
      exact .field (hf.reorders hv) (ih hothers)
  | group hkind hb hitems content others ihc ih =>
    cases hreorders with
    | cons hfirst hothers =>
      obtain ⟨v, rfl, hv⟩ := hfirst.single
      obtain ⟨ms', rfl, hholds⟩ := hv.holds
      obtain ⟨kind', hkind', hkinds⟩ := hholds "kind" _ hkind
      obtain ⟨_, hitems', hlists⟩ := hholds "children" _ hitems
      obtain ⟨items', rfl, hlist⟩ := hlists.items
      obtain ⟨name, hname, -⟩ := Option.bind_eq_some_iff.1 hb
      rw [hkinds.tag?_eq hname] at hkind'
      exact .group hkind' hb hitems' (ihc hlist) (ih hothers)

theorem Written.of_field {j : Json} (h : Written ns (.obj [("field", j)] :: js)) :
    ∃ f ns', ns = .field f :: ns' ∧ f.Written j ∧ Written ns' js := by
  generalize hk : Json.obj [("field", j)] = k at h
  cases h with
  | sign hj => subst hk; cases j <;> simp [Json.tag?] at hj
  | literal | date | group => simp at hk
  | field hf others =>
    obtain rfl : j = _ := by simpa using hk
    exact ⟨_, _, rfl, hf, others⟩

theorem Written.of_group {content : Json} (h : Written ns (.obj [("group", content)] :: js)) :
    ∃ b children ns' ms kind items, ns = .group b children :: ns' ∧ content = .obj ms ∧
      Json.Holds "kind" ms kind ∧ Bracket.ofJson? kind = some b ∧
      Json.Holds "children" ms (.arr items) ∧ Written children items ∧ Written ns' js := by
  generalize hk : Json.obj [("group", content)] = k at h
  cases h with
  | sign hj => subst hk; cases content <;> simp [Json.tag?] at hj
  | literal | date | field => simp at hk
  | group hkind hb hitems hchildren others =>
    obtain rfl : content = _ := by simpa using hk
    exact ⟨_, _, _, _, _, _, rfl, rfl, hkind, hb, hitems, hchildren, others⟩

theorem Written.varies (h : Written ns js) (hvaries : Varies js js') : Written ns js' := by
  induction hvaries generalizing ns with
  | behind j hvaries ih =>
    cases h with
    | sign hj others => exact .sign hj (ih others)
    | literal others => exact .literal (ih others)
    | date others => exact .date (ih others)
    | field hf others => exact .field hf (ih others)
    | group hkind hb hitems content others => exact .group hkind hb hitems content (ih others)
  | sign =>
    cases h with
    | sign hj others => exact .sign rfl others
  | field hvaries =>
    obtain ⟨f, ns', rfl, hf, others⟩ := h.of_field
    exact .field (hf.varies hvaries) others
  | extra value hkey =>
    simp only [List.mem_cons, List.not_mem_nil, or_false, not_or] at hkey
    obtain ⟨b, children, ns', ms, kind, items, rfl, hms, hkind, hb, hitems, content, others⟩ :=
      h.of_group
    cases hms
    exact .group (hkind.extra hkey.1) hb (hitems.extra hkey.2) content others
  | kind =>
    obtain ⟨b, children, ns', ms, kind, items, rfl, hms, hkind, hb, hitems, content, others⟩ :=
      h.of_group
    cases hms
    obtain ⟨rfl, hreplace⟩ := hkind.replace
    exact .group (hreplace _) hb (hitems.replace_other (by decide)) content others
  | children hvaries ih =>
    obtain ⟨b, children, ns', ms, kind, items, rfl, hms, hkind, hb, hitems, content, others⟩ :=
      h.of_group
    cases hms
    obtain ⟨hsame, hreplace⟩ := hitems.replace
    cases hsame
    exact .group (hkind.replace_other (by decide)) hb (hreplace _) (ih content) others

end Node

/-! ## Layouts -/

namespace Layout

/-- The values of a layout: an object in which its key stands once, or a list. -/
inductive Written (l : Layout) : Json → Prop
  | object {ms : List (String × Json)} {items : List Json}
      (hitems : Json.Holds "format" ms (.arr items)) (h : Node.Written l.nodes items) :
      Written l (.obj ms)
  | list {items : List Json} (h : Node.Written l.nodes items) : Written l (.arr [.arr items])

variable {l : Layout} {j j' : Json}

theorem ofJson?_of_written (h : l.Written j) : ofJson? j = some l := by
  cases h with
  | object hitems h => simp [ofJson?, hitems.member?_eq, Node.listOfJson?_of_written h]
  | list h => simp [ofJson?, Node.listOfJson?_of_written h]

theorem written_of_ofJson? (hdistinct : j.distinctKeys) (h : ofJson? j = some l) :
    l.Written j := by
  unfold ofJson? at h
  split at h
  · next ms =>
    obtain ⟨hkeys, hvalues⟩ := Json.distinctKeys_obj_iff.1 hdistinct
    split at h
    · next items hitems =>
      obtain ⟨ns, hns, rfl⟩ := Option.map_eq_some_iff.1 h
      have harr := Json.distinctKeys_of_member? hvalues hitems
      rw [Json.distinctKeys] at harr
      exact .object (Json.holds_of_member? hkeys hitems) (Node.written_of_listOfJson? harr hns)
    · cases h
  · next items =>
    obtain ⟨ns, hns, rfl⟩ := Option.map_eq_some_iff.1 h
    simp only [Json.distinctKeys, Json.distinctKeysItems, Bool.and_true] at hdistinct
    exact .list (Node.written_of_listOfJson? hdistinct hns)
  · cases h

theorem Written.reorders (h : l.Written j) (hreorders : Json.Reorders j j') : l.Written j' := by
  cases h with
  | object hitems h =>
    obtain ⟨ms', rfl, hholds⟩ := hreorders.holds
    obtain ⟨_, hitems', hlists⟩ := hholds "format" _ hitems
    obtain ⟨items', rfl, hlist⟩ := hlists.items
    exact .object hitems' (h.reorders hlist)
  | list h =>
    obtain ⟨items', rfl, hitems⟩ := hreorders.items
    cases hitems with
    | cons hfirst hnil =>
      cases hnil
      obtain ⟨items', rfl, hlist⟩ := hfirst.items
      exact .list (h.reorders hlist)

/-- One change leads from a value of a layout to another one. -/
theorem Written.varies (h : l.Written j) (hvaries : Varies j j') : l.Written j' := by
  cases hvaries with
  | reorders hreorders => exact h.reorders hreorders
  | extra value hkey =>
    cases h with
    | object hitems h => exact .object (hitems.extra hkey) h
  | list hparts =>
    cases h with
    | object hitems h =>
      rw [hitems.eq_of_mem hparts]
      exact .list h
  | parts hvaries =>
    cases h with
    | object hitems h =>
      obtain ⟨hsame, hreplace⟩ := hitems.replace
      cases hsame
      exact .object (hreplace _) (h.varies hvaries)
  | partsItem hvaries =>
    cases h with
    | list h => exact .list (h.varies hvaries)

/-- A value that is read as a layout is read as the same layout after any number of changes: keys in
another order, unknown keys, lists for objects, and names as keys of null. -/
theorem ofJson?_of_varies (hdistinct : j.distinctKeys) (h : ofJson? j = some l)
    (hvaries : Relation.ReflTransGen Varies j j') : ofJson? j' = some l := by
  apply ofJson?_of_written
  induction hvaries with
  | refl => exact written_of_ofJson? hdistinct h
  | tail _ hchange ih => exact ih.varies hchange

/-- A sign, a field and a group, written in the usual way and then changed at each of them. -/
theorem ofJson?_of_varies_everywhere :
    ofJson? (.obj [("format", .arr [.str "sign",
      .obj [("field", .obj [("min", .nat 1), ("max", .nat 3), ("charset", .str "n"),
        ("repeat", .nat 1)])],
      .obj [("group", .obj [("kind", .str "capture"), ("children", .arr [])])]])]) =
        some ⟨[.sign, .field ⟨1, 3, .digits, 1⟩, .group .capture []]⟩ ∧
    ofJson? (.arr [.arr [.obj [("sign", .null)],
      .obj [("field", .arr [.nat 1, .nat 3, .obj [("n", .null)], .nat 1])],
      .obj [("group", .obj [("children", .arr []), ("note", .bool true),
        ("kind", .obj [("capture", .null)])])]]]) =
        some ⟨[.sign, .field ⟨1, 3, .digits, 1⟩, .group .capture []]⟩ := by
  refine ⟨rfl, ofJson?_of_varies (j := .obj [("format", .arr [.str "sign",
    .obj [("field", .obj [("min", .nat 1), ("max", .nat 3), ("charset", .str "n"),
      ("repeat", .nat 1)])],
    .obj [("group", .obj [("kind", .str "capture"), ("children", .arr [])])]])]) rfl rfl ?_⟩
  have hlist : Field.Varies (.obj [("min", .nat 1), ("max", .nat 3), ("charset", .str "n"),
      ("repeat", .nat 1)]) (.arr [.nat 1, .nat 3, .str "n", .nat 1]) :=
    .list (by simp) (by simp) (by simp) (by simp)
  have horder : Json.Reorders (.obj [("kind", .str "capture"), ("children", .arr [])])
      (.obj [("children", .arr []), ("kind", .str "capture")]) := .members (.swap ..)
  have hnote : "note" ∉ ["kind", "children"] := by decide
  refine .head (@Varies.parts [] [] _ _ .sign) ?_
  refine .head (@Varies.parts [] [] _ _ (.behind _ (.field hlist))) ?_
  refine .head (@Varies.parts [] [] _ _ (.behind _ (.field .charsetItem))) ?_
  refine .head (.list List.mem_cons_self) ?_
  refine .head (.reorders (@Json.Reorders.item [] [] _ _ (@Json.Reorders.item [_, _] [] _ _
    (@Json.Reorders.value [] [] _ _ _ horder)))) ?_
  refine .head (.partsItem (.behind _ (.behind _ (@Node.Varies.kind [_] [] _ _)))) ?_
  exact .single (.partsItem (.behind _ (.behind _ (@Node.Varies.extra [_] [_] _ _ _ hnote))))

end Layout

end FieldLayout
