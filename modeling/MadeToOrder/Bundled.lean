import MadeToOrder.Tenant

/-!
# The bundled tenant

A maker of lighted mirrors: its settings and its catalog, as documents.
-/

set_option autoImplicit false

namespace MadeToOrder.Bundled

def texts (fields : List (String × String)) : Value :=
  .object (fields.map (fun f => (f.1, .text f.2)))

def numbers (ns : List Int) : Value := .list (ns.map Value.int)

def row (collection field : String) (others : List (String × Value)) : Value :=
  .object ([("collection", .text collection), ("field", .text field)] ++ others)

def label (s : String) : String × Value := ("label", .text s)

def required : String × Value := ("required", .bool true)

def discriminating : String × Value := ("product_attribute", .bool true)

def tenantId : String := "deco_mirrors"

def domain : Value :=
  texts [("id", tenantId), ("name", "Lighted Mirror Configurator"), ("company", "Deco Mirrors"),
    ("description",
      "Mirror and lighting product lines: styles, sizes, light directions, finishes and accessories"),
    ("version", "1.0")]

def rows : Value :=
  .list [
    row "product_lines" "product_line" [label "Product Line", required],
    row "mirror_styles" "mirror_style" [label "Mirror Style", required, discriminating],
    row "light_directions" "light_direction" [label "Lighting", required, discriminating],
    row "frame_thicknesses" "frame_thickness" [label "Frame Thickness", discriminating],
    row "sizes" "size" [required],
    row "frame_colors" "frame_color" [label "Frame Color", required],
    row "color_temperatures" "color_temperature" [label "Color Temperature", required],
    row "mounting_options" "mounting_option" [("context_key", .text "mounting"), label "Mounting"],
    row "accessories" "accessories" [("multi_select", .bool true)]]

def settings : Value :=
  .object [("domain", domain), ("collections", rows),
    ("override_trigger", .object [("min_selected_fields", .int 1), ("max_candidates", .null)]),
    ("sku", .object [("delimiter", .text "-"), ("multi_value_separator", .text "+"),
      ("suggestion_limit", .int 20)]),
    ("catalog", .object [("kind", .text "file"), ("path", .text "catalog.yaml"),
      ("base_url_env", .text "DIRECTUS_URL"), ("token_env", .text "DIRECTUS_TOKEN"),
      ("timeout_seconds", .int 10), ("refresh_timeout_seconds", .int 30),
      ("page_size", .int 200), ("max_retries", .int 2)])]

def line (id : Int) (name code : String) (defaults : List (String × List Int)) : Value :=
  .object [("id", .int id), ("name", .text name), ("sku_code", .text code),
    ("active", .bool true),
    ("default_options", .object (defaults.map (fun d => (d.1, numbers d.2))))]

def option (id : Int) (name code : String) : Value :=
  .object [("id", .int id), ("name", .text name), ("sku_code", .text code), ("sort", .int id)]

def retired : Value → Value
  | .object fields => .object (fields ++ [("active", .bool false)])
  | v => v

def product (id lineId : Int) (name code : String) (style light frame : Int) : Value :=
  .object [("id", .int id), ("name", .text name), ("product_line", .int lineId),
    ("sku_code", .text code), ("mirror_style", .int style), ("light_direction", .int light),
    ("frame_thickness", .int frame)]

def sizesOf (product : Int) (sizes : List Int) : List Value :=
  sizes.map (fun size =>
    .object [("products_id", .int product), ("collection", .text "sizes"), ("item", .int size)])

def position (order : Int) (collection : String) (enabled : Bool) : Value :=
  .object [("sku_code_item", .text collection), ("order", .int order), ("enabled", .bool enabled)]

def test (field op : String) (v : Value) : Value := .object [(field, .object [(op, v)])]

def ruleHead (id : Int) (name : String) (priority : Int) (active : Bool) (condition : Value) :
    List (String × Value) :=
  [("id", .int id), ("name", .text name), ("priority", .int priority), ("active", .bool active),
    ("if_this", condition)]

def constraint (kind field : String) (value : Int) : List (String × Value) :=
  [("then_action", .text kind), ("then_field", .text field), ("then_value", .int value)]

def lines : Value :=
  .list [
    line 1 "Deco" "DECO"
      [("mirror_styles", [1, 2, 3]),
        ("light_directions", [1, 2, 3]),
        ("frame_thicknesses", [1, 2]),
        ("sizes", [1, 2, 3, 4, 5, 6, 7, 8, 9]),
        ("frame_colors", [1, 2, 3]),
        ("color_temperatures", [1, 2, 3]),
        ("mounting_options", [1, 2]),
        ("accessories", [1, 2, 3])],
    line 2 "Thin" "T23i"
      [("mirror_styles", [2]),
        ("light_directions", [1, 2]),
        ("frame_thicknesses", [1]),
        ("sizes", [1, 2, 3, 4]),
        ("frame_colors", [1, 2]),
        ("color_temperatures", [1, 2]),
        ("mounting_options", [1, 2]),
        ("accessories", [1, 2, 3])]]

def options : Value :=
  .object [
    ("mirror_styles", .list [
      option 1 "Circle" "C", option 2 "Rectangle" "R", option 3 "Oval" "O"]),
    ("light_directions", .list [
      option 1 "Direct" "D", option 2 "Indirect" "I",
      option 3 "Both Direct and Indirect" "B"]),
    ("frame_thicknesses", .list [
      option 1 "Thin Frame" "TF", option 2 "Wide Frame" "WF"]),
    ("sizes", .list [
      option 1 "24 x 30" "2430", option 2 "24 x 36" "2436", option 3 "30 x 36" "3036",
      option 4 "30 x 40" "3040", option 5 "24 Round" "2424", option 6 "30 Round" "3030",
      option 7 "36 x 36" "3636", option 8 "40 x 40" "4040", option 9 "48 x 48" "4848"]),
    ("frame_colors", .list [
      option 1 "Black" "BK", option 2 "Silver" "S", option 3 "Brass" "BR"]),
    ("color_temperatures", .list [
      option 1 "2700K" "27", option 2 "3000K" "30", option 3 "4000K" "40"]),
    ("mounting_options", .list [
      option 1 "Vertical" "V", option 2 "Horizontal" "H"]),
    ("accessories", .list [
      option 1 "Night Light" "NL", option 2 "Anti-Fog" "AF", option 3 "Dimmer" "DM",
      retired (option 4 "Retired Touch Sensor" "TS")])]

def products : Value :=
  .list [
    product 101 1 "Deco Circle Direct" "DECO-C-D" 1 1 1,
    product 102 1 "Deco Circle Indirect" "DECO-C-I" 1 2 1,
    product 103 1 "Deco Circle Both" "DECO-C-B" 1 3 2,
    product 104 1 "Deco Rectangle Direct" "DECO-R-D" 2 1 1,
    product 105 1 "Deco Rectangle Indirect" "DECO-R-I" 2 2 2,
    product 106 1 "Deco Oval Direct" "DECO-O-D" 3 1 1,
    retired (product 107 1 "Deco Oval Both (discontinued)" "DECO-O-B" 3 3 1),
    product 201 2 "Thin Rectangle Direct" "T23i-R-D" 2 1 1,
    product 202 2 "Thin Rectangle Indirect" "T23i-R-I" 2 2 1]

def overrides : Value :=
  .list (sizesOf 101 [5, 6] ++ sizesOf 102 [5] ++ sizesOf 103 [6] ++
    sizesOf 104 [1, 2, 3, 4] ++ sizesOf 105 [2, 3, 4, 7] ++ sizesOf 106 [1, 2, 7, 8, 9])

def rules : Value :=
  .list [
    .object (ruleHead 1 "Deco wide frame catalog code" 100 true
        (.object [("_and", .list [test "product_line" "_eq" (.int 1),
          test "frame_thickness" "_eq" (.int 2)])]) ++
      [("than_that", texts [("sku_code", "DECO-W")])]),
    .object (ruleHead 2 "Indirect lighting segment code" 10 true
        (test "light_direction" "_eq" (.int 2)) ++
      [("than_that", test "light_direction_sku_code" "_eq" (.text "IN"))]),
    .object (ruleHead 3 "No dimmer on the Thin line" 5 true (test "product_line" "_eq" (.int 2)) ++
      constraint "disable_option" "accessories" 3),
    .object (ruleHead 4 "Night light ships with 3000K only" 1 true
        (test "accessories" "_in" (numbers [1])) ++
      constraint "set_value" "color_temperature" 2),
    .object (ruleHead 5 "Horizontal brass (retired)" 50 false
        (.object [("_and", .list [test "mounting" "_eq" (.int 2),
          test "frame_color" "_eq" (.int 3)])]) ++
      [("than_that", texts [("sku_code", "DECO-HBR")])])]

def positions : Value :=
  .list [
    position 1 "product_lines" true,
    position 2 "mirror_styles" true,
    position 3 "light_directions" true,
    position 4 "sizes" true,
    position 5 "frame_colors" true,
    position 6 "color_temperatures" true,
    position 7 "mounting_options" true,
    position 8 "accessories" true,
    position 9 "frame_thicknesses" false]

def catalog : List (String × Value) :=
  [("product_lines", lines), ("options", options), ("products", products),
    ("products_options_overrides", overrides), ("rules", rules), ("sku_code_order", positions)]

end MadeToOrder.Bundled
