import MadeToOrder.Proofs.Configuration.WhereSet

/-!
# Configurations are fixed points

Every turn of the adjusting loop keeps the choices that are set in normal form and the product
line as it was, and the last stage has no unavailable choice. So the options, rules and code of
a configuration are those of its own selection, and computing it again adjusts nothing. It drops
what is not set, which is what empty tuples and sets have become.
-/

set_option autoImplicit false

namespace MadeToOrder

/-- An empty text stands for no choice, so it must not be the id of an option. -/
def Snapshot.IdsNamed (s : Snapshot) : Prop :=
  ∀ collection, ∀ o ∈ Keyed.values (s.optionsIn collection), o.id ≠ .text ""

namespace Configuration

open Selection (Normal IsNormal NormalWhereSet takesSeveral)

variable {snapshot : Snapshot} {trigger : Trigger} {line : Value}

theorem firstAvailable_ne_empty (named : snapshot.IdsNamed) {a : Availability}
    {collection key : String}
    (h : firstAvailable snapshot a collection = .ok (some key)) : key ≠ "" := by
  obtain ⟨options, sorted, h⟩ := bind_eq_ok.mp h
  simp only [pure, Except.pure, Except.ok.injEq] at h
  obtain ⟨o, member, rfl⟩ := List.mem_map.mp (List.mem_of_find?_eq_some h)
  intro empty
  exact named collection o ((snapshot.optionsFor_perm sorted).mem_iff.mp member)
    ((Value.plain_eq_empty_iff o.id).mp empty)

theorem isSet_of_firstInvalid? {p : Pass} {selection : Selection} {spec : FieldSpec}
    {bad : List String} (invalid : firstInvalid? snapshot p selection = some (spec, bad)) :
    ∃ previous, Keyed.get? selection spec.field = some previous ∧ previous.isUnset = false := by
  obtain ⟨previous, found⟩ := Option.isSome_iff_exists.mp (has_of_firstInvalid? invalid)
  obtain ⟨_, _, own, some⟩ := firstInvalid?_eq_some invalid
  refine ⟨previous, found, ?_⟩
  cases unset : previous.isUnset with
  | false => rfl
  | true =>
    refine absurd (own.trans ?_) some
    rw [Availability.invalidIn]
    split
    · rfl
    · split
      · rfl
      · simp [Selection.at?, found, unset]

/-- The value that a turn puts in the place of a normal choice is normal, unless it is null or the
first option in display order. -/
theorem successor_cases {p : Pass} {s : Stage} {spec : FieldSpec} {bad : List String}
    {previous v : Value} (member : spec ∈ snapshot.table.specs)
    (found : Keyed.get? s.selection spec.field = some previous)
    (before : IsNormal snapshot.table spec.field previous)
    (h : successor snapshot p s spec bad = .ok v) (chosen : v.isNull = false) :
    IsNormal snapshot.table spec.field v ∨ ∃ key, v = .text key ∧
      takesSeveral snapshot.table spec.field = false ∧
      firstAvailable snapshot p.availability spec.collection = .ok (some key) := by
  have several := Selection.takesSeveral_of_mem member
  unfold successor replacement at h
  split at h
  · split at h
    · rename_i many
      obtain ⟨items, rfl⟩ := Selection.eq_list_of_isNormal before (several.trans many)
      obtain rfl := Except.ok.inj h
      split at chosen
      · simp [Value.isNull] at chosen
      · rename_i some
        rw [if_neg some]
        refine Or.inl (Selection.isNormal_sublist before (by simpa using some) ?_)
        intro item kept
        have old := (List.mem_filter.mp kept).1
        simpa [Selection.at?, found, Value.elements] using old
    · rename_i one
      obtain ⟨first, available, rfl⟩ := map_eq_ok.mp h
      cases first with
      | none => simp [Value.isNull] at chosen
      | some key => exact Or.inr ⟨key, rfl, several.trans (by simpa using one), available⟩
  · obtain rfl := Except.ok.inj h
    simp [Value.isNull] at chosen

/-- Where ids are named it is normal, or null. -/
theorem isNormal_successor (named : snapshot.IdsNamed) {p : Pass} {s : Stage} {spec : FieldSpec}
    {bad : List String} {v : Value}
    (invalid : firstInvalid? snapshot p s.selection = some (spec, bad))
    (normal : NormalWhereSet snapshot.table s.selection)
    (h : successor snapshot p s spec bad = .ok v) (chosen : v.isNull = false) :
    IsNormal snapshot.table spec.field v := by
  obtain ⟨previous, found, isSet⟩ := isSet_of_firstInvalid? invalid
  obtain ⟨member, _, _, _⟩ := firstInvalid?_eq_some invalid
  rcases successor_cases member found (normal _ (Keyed.mem_of_get? found) isSet) h chosen with
    done | ⟨key, rfl, one, available⟩
  · exact done
  · exact Selection.isNormal_text one (firstAvailable_ne_empty named available)

theorem get?_assign_of_ne (selection : Selection) {field other : String} (v : Value)
    (h : other ≠ field) :
    Keyed.get? (assign selection field v) other = Keyed.get? selection other := by
  unfold assign
  split
  · exact Keyed.get?_erase_of_ne selection h
  · exact Keyed.get?_put_of_ne selection v h

/-- A turn leaves the product line as it is. -/
theorem lineOf?_next? {s t : Stage} {event : Event}
    (h : next? snapshot trigger line s = .ok (some (t, event))) :
    lineOf? snapshot.table t.selection = lineOf? snapshot.table s.selection := by
  obtain ⟨p, spec, bad, v, _, invalid, _, rfl, _⟩ := next?_eq_some h
  obtain ⟨member, notLine, _, _⟩ := firstInvalid?_eq_some invalid
  unfold lineOf?
  cases found : snapshot.table.lineSpec? with
  | none => rfl
  | some lineSpec =>
    obtain ⟨lineMember, isLine⟩ := snapshot.table.byCollection?_spec found
    refine get?_assign_of_ne s.selection v ?_
    intro same
    have := snapshot.table.eq_of_field_eq lineMember member same
    subst this
    simp [FieldSpec.isLine, isLine] at notLine

/-- A turn leaves the choices that are set in normal form, whatever the ids of options. -/
theorem normalWhereSet_of_next? {stage stage' : Stage} {event : Event}
    (h : next? snapshot trigger line stage = .ok (some (stage', event)))
    (normal : NormalWhereSet snapshot.table stage.selection)
    (distinct : (Keyed.keys stage.selection).Nodup) :
    NormalWhereSet snapshot.table stage'.selection ∧ (Keyed.keys stage'.selection).Nodup := by
  obtain ⟨p, spec, bad, v, _, invalid, replaced, rfl, _⟩ := next?_eq_some h
  obtain ⟨member, _, own, some⟩ := firstInvalid?_eq_some invalid
  obtain ⟨previous, found, isSet⟩ := isSet_of_firstInvalid? invalid
  have before := normal _ (Keyed.mem_of_get? found) isSet
  unfold assign
  split
  · exact ⟨fun e kept => normal e (Keyed.mem_of_mem_erase kept),
      Keyed.nodup_keys_erase distinct _⟩
  · rename_i chosen
    refine ⟨fun e kept set => ?_, Keyed.nodup_keys_put distinct _ _⟩
    rcases Keyed.mem_put kept with earlier | rfl
    · exact normal e earlier set
    · rcases successor_cases member found before replaced (by simpa using chosen) with
        done | ⟨key, rfl, one, _⟩
      · exact done
      · exact Selection.isNormal_text one (by simpa [Value.isUnset] using set)

theorem normalWhereSet_of_run {stage last : Stage} {events : List Event}
    (h : Run snapshot trigger line stage events last)
    (normal : NormalWhereSet snapshot.table stage.selection)
    (distinct : (Keyed.keys stage.selection).Nodup) :
    NormalWhereSet snapshot.table last.selection ∧ (Keyed.keys last.selection).Nodup := by
  induction h with
  | stay _ => exact ⟨normal, distinct⟩
  | turn first _ ih =>
    obtain ⟨normal, distinct⟩ := normalWhereSet_of_next? first normal distinct
    exact ih normal distinct

/-- A turn neither drops a choice that is not set nor brings one in. -/
theorem mem_next?_iff_of_unset (named : snapshot.IdsNamed) {s t : Stage} {event : Event}
    (h : next? snapshot trigger line s = .ok (some (t, event)))
    (normal : NormalWhereSet snapshot.table s.selection)
    (distinct : (Keyed.keys s.selection).Nodup) {e : String × Value} (unset : e.2.isUnset = true) :
    e ∈ t.selection ↔ e ∈ s.selection := by
  obtain ⟨p, spec, bad, v, _, invalid, replaced, rfl, _⟩ := next?_eq_some h
  constructor
  · intro member
    unfold assign at member
    split at member
    · exact Keyed.mem_of_mem_erase member
    · rename_i chosen
      rcases Keyed.mem_put member with earlier | rfl
      · exact earlier
      · have new := isNormal_successor named invalid normal replaced (by simpa using chosen)
        rw [new.1] at unset
        cases unset
  · intro member
    obtain ⟨previous, found, isSet⟩ := isSet_of_firstInvalid? invalid
    have held := Keyed.get?_of_mem distinct member
    have other : e.1 ≠ spec.field := by
      intro same
      rw [same, found] at held
      rw [Option.some.inj held, unset] at isSet
      cases isSet
    rw [← get?_assign_of_ne s.selection v other] at held
    exact Keyed.mem_of_get? held

theorem mem_run_iff_of_unset (named : snapshot.IdsNamed) {s u : Stage} {events : List Event}
    (h : Run snapshot trigger line s events u) (normal : NormalWhereSet snapshot.table s.selection)
    (distinct : (Keyed.keys s.selection).Nodup) {e : String × Value} (unset : e.2.isUnset = true) :
    e ∈ u.selection ↔ e ∈ s.selection := by
  induction h with
  | stay _ => rfl
  | turn first _ ih =>
    obtain ⟨normal', distinct'⟩ := normalWhereSet_of_next? first normal distinct
    exact (ih normal' distinct').trans (mem_next?_iff_of_unset named first normal distinct unset)

theorem allSet_run_iff (named : snapshot.IdsNamed) {s u : Stage} {events : List Event}
    (h : Run snapshot trigger line s events u) (normal : NormalWhereSet snapshot.table s.selection)
    (distinct : (Keyed.keys s.selection).Nodup) :
    Selection.AllSet u.selection ↔ Selection.AllSet s.selection := by
  have same := @mem_run_iff_of_unset snapshot trigger line named s u events h normal distinct
  simp only [Selection.AllSet, ← Bool.not_eq_true]
  exact forall_congr' (fun e => by
    rw [imp_not_comm, imp_not_comm (a := e ∈ s.selection)]
    exact forall_congr' (fun unset => not_congr (same unset)))

theorem allSet_of_recompute (named : snapshot.IdsNamed) {settings : Settings}
    {selection : Selection} {state : State} {events : List Event}
    (distinct : (Keyed.keys selection).Nodup)
    (h : recompute selection snapshot settings = .ok (state, events)) :
    Selection.AllSet state.selection := by
  have normal := Selection.normal_normalize snapshot.table selection
  have allSet : Selection.AllSet (Selection.normalize snapshot.table selection) :=
    fun e member => (normal e member).1
  rcases recompute_eq_ok h with ⟨rfl, _⟩ | ⟨_, _, _, _, ran, _, rfl, _⟩
  · exact allSet
  · obtain ⟨last, run, ends, _⟩ := exists_run_of_settle
      (s := Configuration.start snapshot selection) (Nat.zero_add _) ran
    rw [ends]
    exact (allSet_run_iff named run (.of_normal normal)
      (distinct.sublist (Selection.keys_normalize snapshot.table selection))).mpr allSet

theorem lineOf?_run {s u : Stage} {events : List Event}
    (h : Run snapshot trigger line s events u) :
    lineOf? snapshot.table u.selection = lineOf? snapshot.table s.selection := by
  induction h with
  | stay s => rfl
  | turn first rest ih => exact ih.trans (lineOf?_next? first)

/-- Where nothing is invalid, every chosen id of a field is available. -/
theorem mem_available_of_invalidIn {a : Availability} {selection : Selection} {spec : FieldSpec}
    {c : Choices} {v : Value} (h : a.invalidIn selection spec = []) (notLine : spec.isLine = false)
    (chosen : Keyed.get? selection spec.field = some v) (isSet : v.isUnset = false)
    (offered : Keyed.get? a.choices spec.collection = some c) :
    ∀ item ∈ v.elements, item.plain ∈ c.available := by
  simp only [Availability.invalidIn, notLine, offered, Selection.at?, chosen, isSet,
    Option.getD_some, Bool.false_eq_true, if_false, List.filter_eq_nil_iff] at h
  intro item member
  simpa using h item.plain (List.mem_map_of_mem member)

theorem settle_of_valid {selection : Selection} {p : Pass}
    (computed : pass snapshot trigger line selection = .ok p)
    (valid : firstInvalid? snapshot p selection = none) (left : Nat) :
    settle snapshot trigger line left selection = .ok ⟨selection, p, []⟩ := by
  cases left with
  | zero => exact clear_of_valid computed valid
  | succ left => simp [settle, computed, valid, bind, Except.bind, pure, Except.pure]

theorem configure_of_valid {settings : Settings} {selection : Selection} {p : Pass}
    {sku : Sku.Built} (hasLine : lineOf? snapshot.table selection = some line)
    (computed : pass snapshot settings.trigger line selection = .ok p)
    (valid : firstInvalid? snapshot p selection = none)
    (built : Sku.build selection p.outcome.overrides snapshot.codeFields snapshot
      settings.separators = .ok sku) :
    configure selection snapshot settings =
      .ok (⟨selection, some line, some ⟨p.availability, p.outcome, sku⟩, snapshot.asOf⟩,
        closingEvents p sku) := by
  simp [configure, hasLine, settle_of_valid computed valid, built, bind, Except.bind, pure,
    Except.pure]

/-- The options, rules and code of a configuration are those of its selection, and every id
chosen in a collection with options is available. Computing it again adjusts nothing and drops
the choices that are not set; these come from empty tuples and sets, and without them the state
is the same. -/
theorem recomputed_where_set (snapshot : Snapshot) (settings : Settings)
    (choices : Keyed Selection.Given) (state : State) (events : List Event) (line : Value)
    (named : snapshot.IdsNamed) (distinct : (Keyed.keys choices).Nodup)
    (h : recomputeGiven choices snapshot settings = .ok (state, events))
    (hasLine : state.line = some line) :
    ∃ configured, state.configured = some configured ∧
      pass snapshot settings.trigger line state.selection =
        .ok ⟨configured.availability, configured.outcome⟩ ∧
      Sku.build state.selection configured.outcome.overrides snapshot.codeFields snapshot
        settings.separators = .ok configured.sku ∧
      (∀ spec ∈ snapshot.table.specs, spec.isLine = false →
        ∀ v, Keyed.get? state.selection spec.field = some v →
        ∀ c, Keyed.get? configured.availability.choices spec.collection = some c →
        ∀ id ∈ v.elements, id.plain ∈ c.available) ∧
      (line.isUnset = false → ∃ again, recompute state.selection snapshot settings =
          .ok ({ state with selection := state.selection.whereSet }, again) ∧
        ∀ event ∈ again, event.isAdjustment = false) ∧
      ((∃ again, recompute state.selection snapshot settings = .ok (state, again) ∧
          ∀ event ∈ again, event.isAdjustment = false) ↔
        ∀ e ∈ choices, e.2.isHollow = false) := by
  have start := Selection.normalWhereSet_normalizeGiven snapshot.table choices
  have startKeys := distinct.sublist (Selection.keys_normalizeGiven snapshot.table choices)
  rcases configure_eq_ok h with ⟨rfl, _⟩ | ⟨own, settled, sku, found, ran, built, rfl, _⟩
  · cases hasLine
  obtain rfl := Option.some.inj hasLine
  obtain ⟨last, run, ends, computed, valid⟩ := exists_run_of_settle
    (s := ⟨0, Selection.normalizeGiven snapshot.table choices⟩) (Nat.zero_add _) ran
  obtain ⟨normal, keys⟩ := normalWhereSet_of_run run start startKeys
  have kept : lineOf? snapshot.table last.selection = some own := (lineOf?_run run).trans found
  have allSet := (allSet_run_iff named run start startKeys).trans
    (Selection.allSet_normalizeGiven_iff snapshot.table choices)
  rw [ends] at built ⊢
  have again : own.isUnset = false →
      recompute last.selection snapshot settings = .ok (⟨last.selection.whereSet, some own,
        some ⟨settled.pass.availability, settled.pass.outcome, sku⟩, snapshot.asOf⟩,
        closingEvents settled.pass sku) := by
    intro isSet
    rw [recompute_eq_configure, normal.normalize]
    apply configure_of_valid
    · rw [lineOf?_whereSet keys, kept, Option.filter_some, if_pos (by simp [isSet])]
    · rw [pass_whereSet keys, computed]
    · rw [firstInvalid?_whereSet keys, valid]
    · rw [build_whereSet keys, built]
  refine ⟨_, rfl, computed, built, ?_, ?_, ?_⟩
  · intro spec member notLine v chosen c offered
    cases unset : v.isUnset with
    | false =>
      exact mem_available_of_invalidIn (firstInvalid?_eq_none.mp valid spec member) notLine chosen
        unset offered
    | true =>
      have held := (mem_run_iff_of_unset named run start startKeys unset).mp
        (Keyed.mem_of_get? chosen)
      obtain rfl := Selection.eq_nil_of_mem_normalizeGiven held unset
      exact fun _ => nofun
  · intro isSet
    exact ⟨_, again isSet, isAdjustment_closingEvents settled.pass sku⟩
  · rw [← allSet]
    constructor
    · rintro ⟨_, same, _⟩
      exact allSet_of_recompute named keys same
    · intro allSet
      obtain ⟨spec, _, chosen⟩ := Option.bind_eq_some_iff.mp kept
      have isSet : own.isUnset = false := allSet _ (Keyed.mem_of_get? chosen)
      refine ⟨_, ?_, isAdjustment_closingEvents settled.pass sku⟩
      rw [again isSet, allSet.whereSet]

theorem idsNamed_twoColors (rules : List Rule) : (twoColors rules).IdsNamed := by
  intro collection o member
  simp only [Snapshot.optionsIn, twoColors, Keyed.get?] at member
  split at member
  · obtain rfl : o = plainOption "product_lines" "deco" := by simpa [Keyed.values] using member
    simp [plainOption]
  · split at member
    · rcases (by simpa [Keyed.values] using member :
        o = plainOption "colors" "red" ∨ o = plainOption "colors" "blue") with rfl | rfl
      · simp [plainOption]
      · simp [plainOption]
    · simp [Keyed.values] at member

def inRedWithNoFinish : Keyed Selection.Given :=
  [("line", .value (.text "deco")), ("finish", .tuple []), ("color", .value (.text "red"))]

def inBlueWithNoFinish : Selection :=
  [("line", .text "deco"), ("finish", .list []), ("color", .text "blue")]

/-- Where red is taken away, blue takes its place and stays. -/
theorem blue_stays :
    ∃ state events again state' events' again',
      recompute inRed (twoColors [withdrawal "red"]) Settings.standard = .ok (state, events) ∧
      state.selection = inBlue ∧
      recompute inBlue (twoColors [withdrawal "red"]) Settings.standard = .ok (state, again) ∧
      (∀ event ∈ again, event.isAdjustment = false) ∧
      recomputeGiven inRedWithNoFinish (twoColors [withdrawal "red"]) Settings.standard =
        .ok (state', events') ∧ state'.selection = inBlueWithNoFinish ∧
      recompute inBlueWithNoFinish (twoColors [withdrawal "red"]) Settings.standard =
        .ok ({ state' with selection := inBlue }, again') := by
  have named := idsNamed_twoColors [withdrawal "red"]
  obtain ⟨_, _, _, _, _, _, settled⟩ := recomputed_where_set (twoColors [withdrawal "red"])
    Settings.standard inRed.given _ _ _ named (by decide) rfl rfl
  obtain ⟨again, same, quiet⟩ := settled.mpr (by decide)
  obtain ⟨_, _, _, _, _, dropped, _⟩ := recomputed_where_set (twoColors [withdrawal "red"])
    Settings.standard inRedWithNoFinish _ _ _ named (by decide) rfl rfl
  obtain ⟨again', shorter, _⟩ := dropped rfl
  exact ⟨_, _, again, _, _, again', rfl, rfl, same, quiet, rfl, rfl, shorter⟩

/-- An empty tuple or an empty set that is chosen for a field stays in the selection until
it is computed again. -/
theorem hollow_choices_are_dropped_late :
    ¬∀ (snapshot : Snapshot) (settings : Settings) (choices : Keyed Selection.Given)
      (state : State) (events : List Event), snapshot.IdsNamed → (Keyed.keys choices).Nodup →
      recomputeGiven choices snapshot settings = .ok (state, events) →
      state.line.isSome = true →
      ∃ again, recompute state.selection snapshot settings = .ok (state, again) := by
  intro claimed
  obtain ⟨again, same⟩ := claimed (twoColors [withdrawal "red"]) Settings.standard
    inRedWithNoFinish _ _ (idsNamed_twoColors _) (by decide) rfl rfl
  have allSet : inBlueWithNoFinish.AllSet :=
    allSet_of_recompute (idsNamed_twoColors _) (by decide) same
  exact absurd (allSet ("finish", .list []) (List.mem_cons_of_mem _ List.mem_cons_self)) (by decide)

end Configuration

end MadeToOrder
