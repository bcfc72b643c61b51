import MadeToOrder.Catalog.Remote
import MadeToOrder.Session
import MadeToOrder.Sku.Suggestion
import MadeToOrder.Tenant

/-!
# Reports

Results as values, in the form in which they are shown. Ids of options are
sorted, so a report of options fails where an id cannot be ranked.
-/

set_option autoImplicit false

namespace MadeToOrder.Report

def strings (xs : List String) : Value := .list (xs.map Value.text)

def orNull {α : Type} (report : α → Value) : Option α → Value
  | some a => report a
  | none => .null

def number (n : Nat) : Value := .int n

def diagnostic (d : Diagnostic) : Value :=
  .object [("kind", .text d.kind.name), ("message", .text d.message), ("subject", d.subject)]

def diagnostics (ds : List Diagnostic) : Value := .list (ds.map diagnostic)

def idLists (choose : Choices → IdSet) : Keyed Choices → Except Fault (List (String × Value))
  | [] => .ok []
  | (collection, c) :: rest => do
    let ids ← Availability.sortedIds (choose c)
    let others ← idLists choose rest
    return (collection, strings ids) :: others

def history (c : Choices) : Value := strings (c.history.map Step.name)

def availability (a : Availability) : Except Fault Value := do
  let all ← idLists Choices.all a.choices
  let available ← idLists Choices.available a.choices
  let disabled ← idLists Choices.disabled a.choices
  return .object [("all", .object all), ("available", .object available),
    ("disabled", .object disabled),
    ("filtering_history", .object (Keyed.mapValues history a.choices)),
    ("candidate_product_ids", strings a.candidates),
    ("diagnostics", diagnostics a.diagnostics)]

def overrides (o : Rule.Overrides) : Value :=
  .object [("product_sku_override", orNull Value.text o.product),
    ("product_line_sku_override", orNull Value.text o.line),
    ("segment_overrides", .object (Keyed.mapValues Value.text o.segments)),
    ("field_values", .object o.fields)]

def keyText : Value → String
  | .text s => s
  | v => Json.write Json.Style.spaced v

def sortedTexts (ids : IdSet) : List String := Sorting.sort (fun a b => decide (a ≤ b)) ids

def constraint (c : Rule.Constraint) : Value :=
  .object [("allow", strings (sortedTexts c.allow)), ("deny", strings (sortedTexts c.deny))]

def constraints (cs : Rule.Constraints) : Value :=
  .object (cs.map (fun entry => (keyText entry.1, constraint entry.2)))

def ruleIds (rules : List Rule) : Value := .list (rules.map Rule.id)

def outcome (o : Rule.Outcome) : Value :=
  .object [("matched_ids", ruleIds o.matched), ("overrides", overrides o.overrides),
    ("overrides_empty", .bool o.overrides.isEmpty), ("constraints", constraints o.constraints),
    ("diagnostics", diagnostics o.diagnostics)]

def compiled (c : Rule.Compiled) : Value :=
  .object [("id", c.rule.id), ("position", number c.position), ("priority", .float c.priority),
    ("actions", .list (c.assignments.map (fun a => .list [.text a.1, a.2])))]

def segment (s : Sku.Segment) : Value :=
  .object [("collection", .text s.collection), ("order", s.order), ("code", .text s.code),
    ("source", .text s.origin.name)]

def built (b : Sku.Built) : Value :=
  .object [("sku", .text b.sku), ("segments", .list (b.segments.map segment)),
    ("warnings", diagnostics b.warnings), ("product_override", .bool b.isOverride)]

def parsedSegment (s : Sku.ParsedSegment) : Value :=
  .object [("position", number s.position), ("raw", orNull Value.text s.raw),
    ("status", .text s.status.name), ("collection", .text s.collection), ("order", s.order),
    ("matched_option_ids", strings s.matched)]

def parsed (p : Sku.Parsed) : Value :=
  .object [("input", .text p.input), ("raw_segments", strings p.rawSegments),
    ("segments", .list (p.segments.map parsedSegment)), ("confidence", .text p.confidence.name),
    ("selection", .object p.selection), ("issues", strings p.issues)]

def productSuggestion (s : Sku.ProductSuggestion) : Value :=
  .object [("product_id", .text s.product), ("name", s.name), ("sku_code", .text s.code),
    ("product_line", .text s.line)]

def codeSuggestion (s : Sku.CodeSuggestion) : Value :=
  .object [("option_id", .text s.option), ("code", .text s.code), ("name", s.name),
    ("collection", .text s.collection)]

def matchedRule (r : Rule) : Value :=
  .object [("id", r.id), ("name", r.name), ("priority", r.priority)]

def configured : Option Configured → Except Fault (List (String × Value))
  | none => .ok [("options", .null), ("matched_rules", .list []), ("overrides", .null),
      ("rule_diagnostics", .list []), ("sku", .null)]
  | some c => do
    let options ← availability c.availability
    return [("options", options), ("matched_rules", .list (c.outcome.matched.map matchedRule)),
      ("overrides", overrides c.outcome.overrides),
      ("rule_diagnostics", diagnostics c.outcome.diagnostics), ("sku", built c.sku)]

def state (s : State) : Except Fault Value := do
  let parts ← configured s.configured
  return .object ([("selection", .object s.selection), ("line_id", s.line.getD .null)] ++ parts ++
    [("catalog_as_of", .text s.asOf)])

def payload : Event → List (String × Value)
  | .changed changes => [("changes", .object changes)]
  | .cleared => [("reset", .bool true)]
  | .loaded sku confidence => [("sku", sku), ("confidence", .text confidence)]
  | .refreshed asOf stale error =>
    [("as_of", .text asOf), ("stale", .bool stale), ("error", orNull Value.text error)]
  | .adjusted field before after => [("field", .text field), ("from", before), ("to", after)]
  | .optionsComputed available => [("available", .object (Keyed.mapValues number available))]
  | .rulesEvaluated ids => [("matched", .list ids)]
  | .skuBuilt sku => [("sku", .text sku)]

def event (e : Event) : Value := .object (("type", .text e.name) :: payload e)

def events (es : List Event) : Value := .list (es.map event)

def spec (s : FieldSpec) : Value :=
  .object [("collection", .text s.collection), ("field", .text s.field),
    ("context_key", .text s.contextKey), ("label", .text s.label), ("required", .bool s.required),
    ("multi_select", .bool s.multiSelect), ("product_attribute", .bool s.productAttribute)]

def line (l : ProductLine) : Value :=
  .object [("id", l.id), ("name", l.name), ("sku_code", l.code),
    ("default_options", .list (l.defaults.map (fun d => strings [d.1, d.2]))), ("sort", l.sort)]

def option (o : CatalogOption) : Value :=
  .object [("id", o.id), ("name", o.name), ("short_code", o.code),
    ("collection", .text o.collection), ("sort", o.sort), ("active", o.active)]

def product (p : Product) : Value :=
  .object [("id", p.id), ("name", p.name), ("product_line", .text p.line), ("sku_code", p.code),
    ("attributes", .object (Keyed.mapValues Value.text p.attributes)), ("active", p.active)]

def overrideRow (o : OverrideRow) : Value :=
  .object [("product_id", .text o.product), ("collection", .text o.collection),
    ("item", .text o.item)]

def rule (r : Rule) : Value :=
  .object [("id", r.id), ("name", r.name), ("priority", r.priority), ("active", r.active),
    ("if_this", r.condition), ("than_that", r.actions), ("then_action", r.constraintKind),
    ("then_field", r.constraintField), ("then_value", r.constraintValue)]

def codeField (f : CodeField) : Value :=
  .object [("collection", .text f.collection), ("order", f.order), ("enabled", f.enabled)]

def records (s : Snapshot) : List (String × Value) :=
  [("product_lines", .object (Keyed.mapValues line s.lines)),
    ("options", .object (Keyed.mapValues (fun os => .object (Keyed.mapValues option os)) s.options)),
    ("products", .list (s.products.map product)),
    ("overrides", .list (s.overrides.map overrideRow)), ("rules", .list (s.rules.map rule)),
    ("sku_field_order", .list (s.codeFields.map codeField))]

def displayOrder (s : Snapshot) : List String → Except Fault (List (String × Value))
  | [] => .ok []
  | collection :: rest => do
    let options ← s.optionsFor collection
    let others ← displayOrder s rest
    return (collection, strings (options.map CatalogOption.key)) :: others

def trigger (t : Trigger) : Value :=
  .object [("min_selected_fields", .int t.minSelected),
    ("max_candidates", orNull Value.int t.maxCandidates)]

def skuFormat (s : Settings) : Value :=
  .object [("delimiter", .text s.separators.delimiter),
    ("multi_value_separator", .text s.separators.multi),
    ("suggestion_limit", .int s.suggestionLimit)]

def settings (s : Settings) : Value :=
  .object [("trigger", trigger s.trigger), ("delimiter", .text s.separators.delimiter),
    ("multi_separator", .text s.separators.multi), ("suggestion_limit", .int s.suggestionLimit)]

def sourceConfig (c : SourceConfig) : Value :=
  .object [("kind", .text c.kind.name), ("path", .text c.path),
    ("base_url_env", .text c.urlVariable), ("token_env", .text c.tokenVariable),
    ("timeout_seconds", .float c.timeout), ("refresh_timeout_seconds", .float c.refreshTimeout),
    ("page_size", .int c.pageSize), ("max_retries", .int c.maxRetries)]

def identity (t : Tenant) : List (String × Value) :=
  [("name", t.name), ("company", t.company), ("description", t.description),
    ("version", .text t.version)]

def summaryRow (s : FieldSpec) : Value :=
  .object [("collection", .text s.collection), ("field", .text s.field),
    ("context_key", .text s.contextKey), ("required", .bool s.required),
    ("multi_select", .bool s.multiSelect), ("product_attribute", .bool s.productAttribute)]

def summary (t : Tenant) : Value :=
  .object [("tenant", .object (("id", t.id) :: identity t)),
    ("collections", .list (t.collections.map summaryRow)),
    ("override_trigger", trigger t.settings.trigger), ("sku", skuFormat t.settings),
    ("catalog_source", .text t.catalog.kind.name)]

def request (r : Request) : Value :=
  .object [("path", .text r.path), ("auth", orNull Value.text r.auth),
    ("params", .list (r.params.map (fun p => strings [p.1, p.2])))]

end MadeToOrder.Report
