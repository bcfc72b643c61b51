import MadeToOrder.Proofs.Catalog.Shuffled
import MadeToOrder.Proofs.Configuration.Alike

/-!
# The order of rows

A service that delivers rows gives them in no particular order, and none is needed.
-/

set_option autoImplicit false

namespace MadeToOrder

/-- Documents that differ only in the order of their rows, and of the defaults of each
line, lead to the same configurations and read codes alike. Ids are distinct within the
lines and within each collection, and sort values are numbers or nothing. NaN is no number. -/
theorem row_order_is_free (file file' : CatalogFile) (shuffled : file.Shuffled file')
    (orderly : file.Orderly) (table : FieldTable) (asOf asOf' : String) (s s' : Snapshot)
    (h : file.snapshot table asOf = .ok s) (h' : file'.snapshot table asOf' = .ok s') :
    (∀ selection settings, Paired
      (fun (r r' : State × List Event) => r.1.Alike r'.1 ∧
        r'.2.filter Event.isAdjustment = r.2.filter Event.isAdjustment)
      (Configuration.recompute selection s settings)
      (Configuration.recompute selection s' settings)) ∧
    ∀ sku line separators, Sku.parse sku s'.codeFields s' line separators =
      Sku.parse sku s.codeFields s line separators := by
  have alike : s.Alike s' := shuffled.alike orderly (Answering.direct.assembled h)
    (Answering.direct.assembled h')
  refine ⟨Configuration.paired_recompute alike, fun sku line separators => ?_⟩
  rw [alike.codeFields]
  exact Sku.parse_of_alike alike sku s.codeFields line separators

namespace ColorBook

def deco (order : List Value → List Value) : Value :=
  .object [("id", .text "deco"), ("default_options", .list (order [
    .object [("collection", .text "colors"), ("item", .text "red")],
    .object [("collection", .text "colors"), ("item", .text "blue")]]))]

def neo : Value := .object [("id", .text "neo"), ("sort", .int 1)]

def colors : List Value :=
  [.object [("id", .text "red"), ("sku_code", .text "R")],
    .object [("id", .text "blue"), ("sku_code", .text "B")]]

def products : List Value :=
  [.object [("id", .int 1), ("product_line", .text "deco"), ("color", .text "red")],
    .object [("id", .int 2), ("product_line", .text "deco"), ("color", .text "blue")]]

def overrides : List Value :=
  [.object [("products_id", .int 1), ("collection", .text "colors"), ("item", .text "red")],
    .object [("products_id", .int 2), ("collection", .text "colors"), ("item", .text "blue")]]

def file (order : List Value → List Value) : CatalogFile :=
  .document (.object [("product_lines", .list (order [deco order, neo])),
    ("options", .object [("colors", .list (order colors))]),
    ("products", .list (order products)), ("products_options_overrides", .list (order overrides)),
    ("sku_code_order", .list [.object [("collection", .text "colors"), ("order", .int 1)]])])

def inGreen : Selection := [("line", .text "deco"), ("color", .text "green")]

theorem options_file (order : List Value → List Value) (collection : String) :
    (file order).options collection = .ok (if "colors" = collection then order colors else []) := by
  show (Value.entryOr [("colors", .list (order colors))] collection (.list [])).iterate = _
  unfold Value.entryOr Keyed.get?
  split <;> rfl

theorem sameLine_deco : CatalogFile.SameLine (deco id) (deco List.reverse) := by
  refine ⟨_, _, rfl, rfl, fun key other => ?_, _, _, rfl, rfl, (List.reverse_perm _).symm⟩
  have others : ∀ v : Value, Keyed.get? [("id", .text "deco"), ("default_options", v)] key =
      Keyed.get? [("id", .text "deco")] key := by
    intro v
    show (if "id" = key then _ else if "default_options" = key then _ else none) = _
    rw [if_neg (Ne.symm other)]
    rfl
  exact (others _).trans (others _).symm

theorem sameLine_neo : CatalogFile.SameLine neo neo :=
  ⟨_, _, rfl, rfl, fun _ _ => rfl, _, _, rfl, rfl, .refl _⟩

theorem shuffled : (file id).Shuffled (file List.reverse) where
  lines := .ok ⟨[neo, deco id], .swap _ _ _, .cons sameLine_neo (.cons sameLine_deco .nil)⟩
  options collection := by
    rw [options_file, options_file]
    split
    · exact .ok (List.reverse_perm colors).symm
    · exact .ok (.refl _)
  products := .ok (List.reverse_perm products).symm
  overrides := .ok (List.reverse_perm overrides).symm
  rules := rfl
  codeFields := rfl

theorem distinctIds_pair {r q : Value} {i j : Value} (first : r.field "id" = .ok i)
    (second : q.field "id" = .ok j) (apart : i.plain ≠ j.plain) : DistinctIds [r, q] := by
  apply List.pairwise_pair.mpr
  intro i' j' first' second'
  obtain rfl := Except.ok.inj (first.symm.trans first')
  obtain rfl := Except.ok.inj (second.symm.trans second')
  exact apart

theorem placedRecords_pair {fs gs : List (String × Value)}
    (first : (Value.entry fs "sort").isPlaced = true)
    (second : (Value.entry gs "sort").isPlaced = true) :
    PlacedRecords [.object fs, .object gs] := by
  intro _ member
  rcases List.mem_pair.mp member with same | same
  · exact Value.object.inj same ▸ first
  · exact Value.object.inj same ▸ second

theorem orderly : (file id).Orderly where
  distinctLines := by
    rintro _ ⟨⟩
    exact distinctIds_pair (r := deco id) (q := neo) rfl rfl (by decide)
  distinctOptions collection rows read := by
    rw [options_file] at read
    obtain rfl := Except.ok.inj read
    split
    · exact distinctIds_pair rfl rfl (by decide)
    · exact .nil
  placedLines := by
    rintro _ ⟨⟩
    exact placedRecords_pair rfl rfl
  placedOptions collection rows read := by
    rw [options_file] at read
    obtain rfl := Except.ok.inj read
    split
    · exact placedRecords_pair rfl rfl
    · exact fun _ member => absurd member List.not_mem_nil

end ColorBook

/-- Green, which the line does not come in, turns into blue from either document. -/
theorem reversed_rows_change_nothing :
    (ColorBook.file id).Shuffled (ColorBook.file List.reverse) ∧ (ColorBook.file id).Orderly ∧
    ∃ s s' state events state' events',
      (ColorBook.file id).snapshot (Configuration.twoColors []).table "" = .ok s ∧
      (ColorBook.file List.reverse).snapshot (Configuration.twoColors []).table "" = .ok s' ∧
      Keyed.keys s.lines = ["deco", "neo"] ∧ Keyed.keys s'.lines = ["neo", "deco"] ∧
      Configuration.recompute ColorBook.inGreen s Settings.standard = .ok (state, events) ∧
      Configuration.recompute ColorBook.inGreen s' Settings.standard = .ok (state', events') ∧
      state.Alike state' ∧ state.selection = Configuration.inBlue ∧
      events'.filter Event.isAdjustment = events.filter Event.isAdjustment ∧
      events.filter Event.isAdjustment = [.adjusted "color" (.text "green") (.text "blue")] ∧
      Sku.parse (.text "B") s'.codeFields s' (.text "deco") Sku.Separators.standard =
        Sku.parse (.text "B") s.codeFields s (.text "deco") Sku.Separators.standard := by
  obtain ⟨s, s', h, h', keys, keys', state, events, ran, chosen, adjusted⟩ :
      ∃ s s', (ColorBook.file id).snapshot (Configuration.twoColors []).table "" = .ok s ∧
        (ColorBook.file List.reverse).snapshot (Configuration.twoColors []).table "" = .ok s' ∧
        Keyed.keys s.lines = ["deco", "neo"] ∧ Keyed.keys s'.lines = ["neo", "deco"] ∧
        ∃ state events,
          Configuration.recompute ColorBook.inGreen s Settings.standard = .ok (state, events) ∧
          state.selection = Configuration.inBlue ∧ events.filter Event.isAdjustment =
            [.adjusted "color" (.text "green") (.text "blue")] :=
    ⟨_, _, rfl, rfl, rfl, rfl, _, _, rfl, rfl, rfl⟩
  obtain ⟨computed, read⟩ := row_order_is_free _ _ ColorBook.shuffled ColorBook.orderly
    (Configuration.twoColors []).table "" "" s s' h h'
  have both := computed ColorBook.inGreen Settings.standard
  rw [ran] at both
  obtain ⟨⟨state', events'⟩, ran', alike, same⟩ := both.exists_ok
  exact ⟨ColorBook.shuffled, ColorBook.orderly, s, s', state, events, state', events', h, h', keys,
    keys', ran, ran', alike, chosen, same, adjusted, read _ _ _⟩

end MadeToOrder
