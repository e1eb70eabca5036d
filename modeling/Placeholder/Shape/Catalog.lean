import Placeholder.Shape.Basic

/-!
# A catalog of shapes

Declared types for orders and messages, and a list of shapes under names: the scalar types, lists,
maps and options of them, the declared types, and the types of the library itself.
-/

namespace Placeholder.Catalog

/-- The names of the declared types. -/
inductive Name where
  | customer
  | order
  | webhook
  | channel
  | color
  | point
  | marker
  | strict
  | tree
  deriving DecidableEq

/-- What each name declares. -/
def schema : Schema Name
  | .customer =>
    .record "Customer"
      [{ name := "email", shape := .string },
        { name := "phone", shape := .option .string },
        { name := "age", shape := .integer (.unsigned 32) }] false
  | .order =>
    .record "Order"
      [{ name := "customer", shape := .declared .customer },
        { name := "items", shape := .list .string },
        { name := "total", shape := .float },
        { name := "paid", shape := .boolean }] false
  | .webhook =>
    .record "Webhook"
      [{ name := "what_fruit", shape := .string },
        { name := "price_origin", shape := .float },
        { name := "price_str", shape := .string },
        { name := "email", shape := .option .string },
        { name := "phone_base64_or_null", shape := .option .string }] false
  | .channel =>
    .choice "Channel"
      [{ name := "Email", payload := .none },
        { name := "Sms", payload := .single .string },
        { name := "Push", payload := .record [
            { name := "token", shape := .string },
            { name := "badge", shape := .integer (.signed 32) }] },
        { name := "Pair", payload := .series [.string, .integer (.signed 32)] }]
  | .color =>
    .choice "Color"
      [{ name := "Red", payload := .none },
        { name := "Green", payload := .none },
        { name := "Blue", payload := .none }]
  | .point => .series "Point" [.integer (.signed 32), .integer (.signed 32)]
  | .marker => .marker "Marker"
  | .strict =>
    .record "Strict"
      [{ name := "a", shape := .integer (.signed 32) },
        { name := "b", shape := .boolean, default? := some (.boolean false) }] true
  | .tree =>
    .record "Tree"
      [{ name := "v", shape := .integer (.signed 64) },
        { name := "children", shape := .list (.declared .tree), default? := some (.series []) }]
      false

/-- A number that is a customer's, an order's or the like. -/
def id : Shape Name := .renamed (.integer (.unsigned 32))

/-- All shapes of the catalog, by name. -/
def shapes : List (String × Shape Name) :=
  [("string", .string), ("bool", .boolean), ("char", .character), ("unit", .unit),
    ("i8", .integer (.signed 8)), ("i16", .integer (.signed 16)),
    ("i32", .integer (.signed 32)), ("i64", .integer (.signed 64)),
    ("i128", .integer (.signed 128)), ("u8", .integer (.unsigned 8)),
    ("u16", .integer (.unsigned 16)), ("u32", .integer (.unsigned 32)),
    ("u64", .integer (.unsigned 64)), ("u128", .integer (.unsigned 128)), ("f64", .float),
    ("opt_string", .option .string), ("opt_i32", .option (.integer (.signed 32))),
    ("opt_channel", .option (.declared .channel)),
    ("vec_i64", .list (.integer (.signed 64))), ("vec_u8", .list (.integer (.unsigned 8))),
    ("vec_string", .list .string), ("vec_opt_bool", .list (.option .boolean)),
    ("vec_vec_i32", .list (.list (.integer (.signed 32)))),
    ("vec_channel", .list (.declared .channel)), ("vec_color", .list (.declared .color)),
    ("vec_id", .list id), ("vec_value", .list .value), ("vec_hint", .list .sizes),
    ("pair", .pair .string (.integer (.signed 32))),
    ("array2", .array 2 (.integer (.signed 32))),
    ("map_i64", .map .string (.integer (.signed 64))),
    ("map_vec_i32", .map .string (.list (.integer (.signed 32)))),
    ("map_channel", .map .string (.declared .channel)),
    ("map_u32_key", .map (.integer (.unsigned 32)) (.integer (.signed 64))),
    ("map_color_key", .map (.declared .color) (.integer (.signed 64))),
    ("customer", .declared .customer), ("order", .declared .order),
    ("webhook", .declared .webhook), ("channel", .declared .channel),
    ("color", .declared .color), ("id", id), ("point", .declared .point),
    ("marker", .declared .marker), ("strict", .declared .strict), ("tree", .declared .tree),
    ("value", .value), ("node", .node), ("path", .path), ("value_first", .valueFirst),
    ("hint", .sizes)]

/-- The shape under a name. -/
def shape? (name : String) : Option (Shape Name) := shapes.lookup name

end Placeholder.Catalog
