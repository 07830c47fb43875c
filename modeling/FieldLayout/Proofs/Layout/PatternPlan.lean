import FieldLayout.Proofs.Layout.Cuts
import FieldLayout.Proofs.Layout.PatternReading
import FieldLayout.Proofs.Pattern.Emission

/-!
# The search for the pattern of a layout

The tree of a layout becomes a plan. Along its items the plan leads where the cuts of the layout
lead, in the same order. Since it is held at both ends of the text, the search finds the first cut
of the whole text.

## Main definitions

* `Layout.patternPlan`: the plan of a layout.

## Main statements

* `Node.waysAll_patternItemsList`: the plan leads where the cuts lead.
* `Node.lastGroupList_patternItemsList`: the groups of the plan are those of the layout.
* `Layout.search_patternPlan`: the search finds the first cut of the whole text.
-/

namespace FieldLayout

/-! ## Items -/

namespace Plan

theorem ofExprList_append (as bs : List Expr) :
    ofExprList (as ++ bs) = ofExprList as ++ ofExprList bs := by
  induction as with
  | nil => rfl
  | cons a as ih => rw [List.cons_append, ofExprList, ih, ofExprList, List.cons_append]

/-- The plan of items that are put together has what their plans have together. -/
theorem Joins.ofExpr_ofItems {M : Type} {join : M → M → M} {unit : M} {one : Plan → M}
    {all : List Plan → M} (h : Joins join unit one all) (es : List Expr) :
    one (ofExpr (.ofItems es)) = all (ofExprList es) := by
  match es with
  | [] => exact h.empty.trans h.nil.symm
  | [e] => exact (h.singleton (ofExpr e)).symm
  | e :: e' :: es => exact h.concat (ofExprList (e :: e' :: es))

variable {text : Array Char}

theorem ways_ofExpr_single (c : Char) (s : Progress) :
    (ofExpr (.chars (.single c) false 0)).ways text s = s.read text (.single c) := by
  refine ways_ofRanges text false (fun d hd => ?_) s
  have honly : (CharRanges.single c).only? = some c := by
    simp [CharRanges.only?, CharRanges.single, CharRange.single]
  rw [honly, Option.some.injEq] at hd
  rw [hd]

/-- The items of a literal spell it. -/
theorem waysAll_ofLiteral (t : String) (s : Progress) :
    waysAll text (ofExprList (Expr.ofLiteral t)) s = s.spell text t.toList := by
  unfold Expr.ofLiteral
  induction t.toList generalizing s with
  | nil => rfl
  | cons c cs ih =>
    rw [List.map_cons, ofExprList, waysAll, ways_ofExpr_single, Progress.spell]
    exact List.flatMap_congr fun u _ => ih u

/-- The item of a field takes as many characters of its set as it can. -/
theorem ways_patternItem {f : Field} (h : f.min ≤ f.max) (s : Progress) :
    (ofExpr f.patternItem).ways text s =
      (f.lengths text s.place).map fun n => ⟨s.place + n, s.marks⟩ := by
  have hbody : (ofRanges f.charset.ranges false).ways text =
      fun u => u.read text f.charset.ranges := by
    funext u
    exact ways_ofRanges text false (fun c => f.charset.eq_single_of_only?) u
  have hreads : ¬ (ofRanges f.charset.ranges false).readsNothing := by
    simp [readsNothing_ofRanges]
  have hmin : f.min.toNat ≤ f.max.toNat := UInt32.le_iff_toNat_le.1 h
  have hcount : f.max.toNat + 1 - f.min.toNat = f.max.toNat - f.min.toNat + 1 := by omega
  rw [Field.patternItem, ofExpr, ofExpr, ways_repeated _ _ _ _ _ (fun h => absurd h hreads), hbody,
    Charset.rounds_read, Field.lengths, hcount, List.range'_eq_map_range, ← List.map_reverse,
    List.filter_map, List.map_map]
  -- The least number of characters has to fit before any more do.
  by_cases hfits : f.charset.fits text s.place f.min.toNat
  · have hmore : (f.charset.fits text s.place ∘ fun k => f.min.toNat + k) =
        f.charset.fits text (s.place + f.min.toNat) := by
      funext k
      simp [Charset.fits_add, hfits]
    rw [if_pos hfits, List.flatMap_singleton, Charset.upToRounds_read, hmore]
    refine List.map_congr_left fun k _ => ?_
    simp [Nat.add_assoc]
  · have hnone : (f.charset.fits text s.place ∘ fun k => f.min.toNat + k) = fun _ => false := by
      funext k
      simp [Charset.fits_add, hfits]
    rw [if_neg hfits, hnone]
    simp

end Plan

/-! ## Sequences of parts -/

namespace Node

variable {text : Array Char}

theorem ofExprList_patternItemsList_cons (index : Nat) (n : Node) (ns : List Node) :
    Plan.ofExprList (patternItemsList index (n :: ns)) =
      Plan.ofExprList (n.patternItems index) ++
        Plan.ofExprList (patternItemsList (index + n.captureCount) ns) := by
  rw [patternItemsList, Plan.ofExprList_append]

theorem waysAll_patternItemsList_cons {index : Nat} {n : Node} {ns : List Node} {s : Progress}
    (hn : Plan.waysAll text (Plan.ofExprList (n.patternItems index)) s =
      (n.cuts text index s).map (·.reached))
    (hns : ∀ index s, Plan.waysAll text (Plan.ofExprList (patternItemsList index ns)) s =
      (cutsList text index ns s).map (·.reached)) :
    Plan.waysAll text (Plan.ofExprList (patternItemsList index (n :: ns))) s =
      (cutsList text index (n :: ns) s).map (·.reached) := by
  rw [ofExprList_patternItemsList_cons, Plan.waysAll_append, hn, cutsList, List.map_flatMap,
    List.flatMap_map]
  refine List.flatMap_congr fun a _ => ?_
  rw [hns, List.map_map]
  rfl

/-- The plan of consecutive parts leads where their cuts lead, in the same order. -/
theorem waysAll_patternItemsList {ns : List Node} (hns : Writable ns) (index : Nat)
    (s : Progress) : Plan.waysAll text (Plan.ofExprList (patternItemsList index ns)) s =
      (cutsList text index ns s).map (·.reached) := by
  induction ns using Node.sequence_induction generalizing index s with
  | nil => rfl
  | literal t ns ih =>
    refine waysAll_patternItemsList_cons ?_ (ih hns.tail)
    rw [patternItems, Plan.waysAll_ofLiteral, cuts, List.map_map]
    exact (List.map_id' _).symm
  | field f ns ih =>
    have hf : f.min ≤ f.max := hns.ordered f (List.mem_append_left _ (List.mem_singleton_self f))
    refine waysAll_patternItemsList_cons ?_ (ih hns.tail)
    rw [patternItems, Plan.ofExprList, Plan.ofExprList, (Plan.joins_ways text).singleton,
      Plan.ways_patternItem hf, cuts, List.map_map]
    rfl
  | date run ns ih => exact waysAll_patternItemsList_cons rfl (ih hns.tail)
  | sign ns ih => exact waysAll_patternItemsList_cons rfl (ih hns.tail)
  | group bracket children ns ihc ih =>
    refine waysAll_patternItemsList_cons ?_ (ih hns.tail)
    rw [patternItems, cuts]
    split
    · rw [Plan.ofExprList, Plan.ofExprList, (Plan.joins_ways text).singleton, Plan.ofExpr,
        Plan.ways, (Plan.joins_ways text).ofExpr_ofItems, ihc hns.children, List.map_map,
        List.map_map]
      rfl
    · -- At most one round: the content, or else nothing.
      rw [Plan.ofExprList, Plan.ofExprList, (Plan.joins_ways text).singleton, Plan.ofExpr,
        Plan.ofExpr, Plan.ways_repeated _ _ _ _ _ (fun _ => ⟨Nat.zero_le 1, Nat.le_refl 1⟩),
        (Plan.joins_ways text).ofExpr_ofItems]
      simp [Progress.rounds, Progress.upToRounds, ihc hns.children, Cut.choose,
        Function.comp_def, Cut.entered]

/-- No repetition in the plan of consecutive parts is without an upper limit. -/
theorem boundedList_patternItemsList (ns : List Node) (index : Nat) :
    Plan.boundedList (Plan.ofExprList (patternItemsList index ns)) := by
  induction ns using Node.sequence_induction generalizing index with
  | nil => rfl
  | literal t ns ih =>
    rw [ofExprList_patternItemsList_cons, Plan.joins_bounded.append, ih, Bool.and_true,
      patternItems, Expr.ofLiteral]
    induction t.toList with
    | nil => rfl
    | cons c cs ihcs =>
      rw [List.map_cons, Plan.ofExprList, Plan.boundedList, ihcs, Bool.and_true]
      exact Plan.bounded_ofRanges _ _
  | field f ns ih =>
    rw [ofExprList_patternItemsList_cons, Plan.joins_bounded.append, ih, Bool.and_true]
    have hbody := Plan.bounded_ofRanges f.charset.ranges false
    exact (Plan.joins_bounded.singleton _).trans (Plan.bounded_repeated hbody _ _ _)
  | date run ns ih => exact ih _
  | sign ns ih => exact ih _
  | group bracket children ns ihc ih =>
    rw [ofExprList_patternItemsList_cons, Plan.joins_bounded.append, ih, Bool.and_true,
      patternItems]
    have hbody (k : Nat) :
        (Plan.ofExpr (.ofItems (patternItemsList k children))).bounded := by
      rw [Plan.joins_bounded.ofExpr_ofItems, ihc]
    split
    · exact (Plan.joins_bounded.singleton _).trans (hbody _)
    · exact (Plan.joins_bounded.singleton _).trans (Plan.bounded_repeated (hbody _) _ _ _)

/-- The groups in the plan of consecutive parts are numbered from the number of those before. -/
theorem lastGroupList_patternItemsList (ns : List Node) (index : Nat) :
    Plan.lastGroupList (Plan.ofExprList (patternItemsList index ns)) =
      if captureCountList ns = 0 then 0 else index + captureCountList ns := by
  induction ns using Node.sequence_induction generalizing index with
  | nil => rfl
  | literal t ns ih =>
    have hliteral : Plan.lastGroupList (Plan.ofExprList (Expr.ofLiteral t)) = 0 := by
      unfold Expr.ofLiteral
      induction t.toList with
      | nil => rfl
      | cons c cs ihcs =>
        rw [List.map_cons, Plan.ofExprList, Plan.lastGroupList, ihcs, Nat.max_zero]
        exact Plan.lastGroup_ofRanges _ _
    rw [ofExprList_patternItemsList_cons, Plan.joins_lastGroup.append, patternItems, hliteral,
      Nat.zero_max, ih]
    simp [captureCountList, captureCount]
  | field f ns ih =>
    have hfield : Plan.lastGroupList (Plan.ofExprList [f.patternItem]) = 0 := by
      rw [Plan.ofExprList, Plan.ofExprList, Plan.joins_lastGroup.singleton]
      exact Plan.lastGroup_repeated_eq_zero (Plan.lastGroup_ofRanges _ _) _ _ _
    rw [ofExprList_patternItemsList_cons, Plan.joins_lastGroup.append, patternItems, hfield,
      Nat.zero_max, ih]
    simp [captureCountList, captureCount]
  | date run ns ih =>
    rw [ofExprList_patternItemsList_cons]
    exact (ih index).trans (by simp [captureCountList, captureCount])
  | sign ns ih =>
    rw [ofExprList_patternItemsList_cons]
    exact (ih index).trans (by simp [captureCountList, captureCount])
  | group bracket children ns ihc ih =>
    rw [ofExprList_patternItemsList_cons, Plan.joins_lastGroup.append, ih, captureCountList,
      captureCount, patternItems]
    split
    · next hcaptures =>
      rw [Plan.ofExprList, Plan.ofExprList, Plan.joins_lastGroup.singleton, Plan.ofExpr,
        Plan.lastGroup, Plan.joins_lastGroup.ofExpr_ofItems, ihc]
      split_ifs <;> omega
    · next hcaptures =>
      rw [Plan.ofExprList, Plan.ofExprList, Plan.joins_lastGroup.singleton, Plan.ofExpr,
        Plan.ofExpr, Plan.lastGroup_repeated_zero_one, Plan.joins_lastGroup.ofExpr_ofItems, ihc]
      split_ifs <;> omega

end Node

/-! ## Layouts -/

namespace Layout

/-- The plan of a layout. -/
def patternPlan (l : Layout) : Plan := Plan.ofExpr l.patternTree

theorem bounded_patternPlan (l : Layout) : l.patternPlan.bounded := by
  rw [patternPlan, patternTree, Plan.joins_bounded.ofExpr_ofItems, Plan.ofExprList_append,
    Plan.joins_bounded.append, Plan.ofExprList, Plan.boundedList,
    Node.boundedList_patternItemsList]
  rfl

theorem lastGroup_patternPlan (l : Layout) : l.patternPlan.lastGroup = l.captureCount := by
  rw [patternPlan, patternTree, Plan.joins_lastGroup.ofExpr_ofItems, Plan.ofExprList_append,
    Plan.joins_lastGroup.append, Plan.ofExprList, Plan.lastGroupList,
    Node.lastGroupList_patternItemsList, captureCount]
  split_ifs with h
  · rw [h]
    rfl
  · simp [Plan.ofExprList, Plan.ofExpr, Plan.lastGroupList, Plan.lastGroup]

/-- The plan is held at both ends of the text. -/
theorem ways_patternPlan (l : Layout) (text : Array Char) (s : Progress) :
    l.patternPlan.ways text s = if s.place = 0 then
      (Plan.waysAll text (Plan.ofExprList (Node.patternItemsList 0 l.nodes)) s).filter
        fun u => u.place = text.size
      else [] := by
  have hstart : (Plan.edge .textStart).ways text s = if s.place = 0 then [s] else [] := by
    simp [Plan.ways, Edge.holds]
  have hend (u : Progress) : Plan.waysAll text (Plan.ofExprList [.edge .textEnd]) u =
      if u.place = text.size then [u] else [] := by
    simp [Plan.ofExprList, Plan.ofExpr, Plan.waysAll, Plan.ways, Edge.holds]
  rw [patternPlan, patternTree, (Plan.joins_ways text).ofExpr_ofItems, Plan.ofExprList_append,
    Plan.waysAll_append, funext hend, Plan.ofExprList, Plan.waysAll, Plan.ofExpr, hstart]
  by_cases h : s.place = 0
  · rw [if_pos h, if_pos h, List.flatMap_singleton]
    induction Plan.waysAll text (Plan.ofExprList (Node.patternItemsList 0 l.nodes)) s with
    | nil => rfl
    | cons u us ih =>
      rw [List.flatMap_cons, ih, List.filter_cons]
      split <;> simp_all
  · rw [if_neg h, if_neg h]
    rfl

/-- The search for the plan of a layout finds the first cut of the whole text. -/
theorem search_patternPlan {l : Layout} (hl : Node.Writable l.nodes) (text : Array Char) :
    (Program.ofPlan l.patternPlan).search text =
      (l.cuts text).head?.map (·.reached.thread Program.done.entry) := by
  have hfirst : l.patternPlan.ways text ⟨0, []⟩ = (l.cuts text).map (·.reached) := by
    rw [ways_patternPlan, if_pos rfl, Node.waysAll_patternItemsList hl, List.filter_map]
    rfl
  -- The search tries the later places too, but the plan is held at the start.
  have hlater (place : Nat) : l.patternPlan.ways text ⟨place + 1, []⟩ = [] := by
    rw [ways_patternPlan, if_neg (Nat.succ_ne_zero place)]
  rw [Program.search_ofPlan text l.bounded_patternPlan, List.range_succ_eq_map, List.flatMap_cons,
    List.flatMap_map, hfirst, List.flatMap_eq_nil_iff.2 fun place _ => by rw [hlater]; rfl,
    List.append_nil, List.map_map, List.head?_map]
  rfl

end Layout

end FieldLayout
