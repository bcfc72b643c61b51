import MadeToOrder.Proofs.Catalog.Alike
import MadeToOrder.Sku.Parse

/-!
# Codes from alike snapshots

A code is built from options that are looked up, and parsed against options in display
order, so alike snapshots give the same code and read it in the same way.
-/

set_option autoImplicit false

namespace MadeToOrder.Sku

variable {s s' : Snapshot} {offer offer' : Option (Keyed (List String))}

theorem chosenCodes_of_alike (h : s.Alike s') (collection : String) (v : Value) :
    chosenCodes s' collection v = chosenCodes s collection v := by
  unfold chosenCodes
  simp only [h.option?]

theorem fieldCode_of_alike (h : s.Alike s') (selection : Selection) (overrides : Rule.Overrides)
    (multi : String) (spec : FieldSpec) : fieldCode s' selection overrides multi spec =
      fieldCode s selection overrides multi spec := by
  unfold fieldCode chosenCode
  rw [chosenCodes_of_alike h]

theorem buildSegments_of_alike (h : s.Alike s') (selection : Selection)
    (overrides : Rule.Overrides) (multi : String) (fields : List CodeField) :
    buildSegments s' selection overrides multi fields =
      buildSegments s selection overrides multi fields := by
  induction fields with
  | nil => rfl
  | cons entry rest ih =>
    rw [buildSegments, buildSegments, h.table, ih]
    simp only [fieldCode_of_alike h]

theorem build_of_alike (h : s.Alike s') (selection : Selection) (overrides : Rule.Overrides)
    (fields : List CodeField) (separators : Separators) :
    build selection overrides fields s' separators =
      build selection overrides fields s separators := by
  unfold build
  simp only [buildSegments_of_alike h]

def SameOffer (offer offer' : Option (Keyed (List String))) : Prop :=
  ∀ collection, offer'.bind (fun defaults => Keyed.get? defaults collection) =
    offer.bind (fun defaults => Keyed.get? defaults collection)

theorem paired_offerOf (h : s.Alike s') (line : Value) :
    Paired SameOffer (offerOf s line) (offerOf s' line) := by
  unfold offerOf
  rw [h.hasLine]
  split
  · exact (h.lineDefaults line).map fun _ _ same => same
  · exact .ok fun _ => rfl

theorem candidates_of_alike (h : s.Alike s') (same : SameOffer offer offer')
    (collection : String) : candidates s' offer' collection = candidates s offer collection := by
  unfold candidates
  rw [h.optionsFor, same]

theorem readSegment_of_alike (h : s.Alike s') (same : SameOffer offer offer')
    (separators : Separators) (spec : FieldSpec) (position : Nat) (order : Value)
    (raw : Option String) : readSegment s' offer' separators spec position order raw =
      readSegment s offer separators spec position order raw := by
  unfold readSegment
  rw [candidates_of_alike h same]

theorem readSegments_of_alike (h : s.Alike s') (same : SameOffer offer offer')
    (separators : Separators) (fields : List CodeField) (position : Nat) (raws : List String) :
    readSegments s' offer' separators position fields raws =
      readSegments s offer separators position fields raws := by
  induction fields generalizing position raws with
  | nil => rfl
  | cons entry rest ih =>
    rw [readSegments, readSegments, h.table]
    simp only [readSegment_of_alike h same, ih]

theorem parse_of_alike (h : s.Alike s') (sku : Value) (fields : List CodeField) (line : Value)
    (separators : Separators) :
    parse sku fields s' line separators = parse sku fields s line separators := by
  apply Eq.symm
  apply Paired.eq
  apply (Paired.refl (enabledOrder fields)).bind
  rintro ordered _ rfl
  apply (Paired.refl (trimmedPieces separators.delimiter (inputText sku))).bind
  rintro raws _ rfl
  apply (paired_offerOf h line).bind
  intro offer offer' same
  rw [readSegments_of_alike h same]
  exact .refl _

end MadeToOrder.Sku
