import CacheTier.Proofs.Json.Documents

/-!
# Documents in another order

The fields of an object can stand in any order.  A rearranged document has the floats of the
document and is as deep, so it is taken in alike.
-/

namespace CacheTier
namespace Json

mutual

/-- One document is another with the fields of its objects in some order, at any depth. -/
inductive Rearranged : Doc → Doc → Prop
  | null : Rearranged .null .null
  | bool (b : Bool) : Rearranged (.bool b) (.bool b)
  | int (n : Int) : Rearranged (.int n) (.int n)
  | float (x : Float) : Rearranged (.float x) (.float x)
  | text (s : String) : Rearranged (.text s) (.text s)
  | array {xs ys : List Doc} (h : RearrangedItems xs ys) : Rearranged (.array xs) (.array ys)
  | object {fs gs hs : List (String × Doc)} (h : RearrangedFields fs gs) (hperm : gs.Perm hs) :
      Rearranged (.object fs) (.object hs)

inductive RearrangedItems : List Doc → List Doc → Prop
  | nil : RearrangedItems [] []
  | cons {x y : Doc} {xs ys : List Doc} (h : Rearranged x y) (hrest : RearrangedItems xs ys) :
      RearrangedItems (x :: xs) (y :: ys)

/-- The values of some fields are rearranged, but not the fields themselves. -/
inductive RearrangedFields : List (String × Doc) → List (String × Doc) → Prop
  | nil : RearrangedFields [] []
  | cons {key : String} {x y : Doc} {fs gs : List (String × Doc)} (h : Rearranged x y)
      (hrest : RearrangedFields fs gs) : RearrangedFields ((key, x) :: fs) ((key, y) :: gs)

end

mutual

/-- The order in which a document is printed is one of the orders. -/
theorem Rearranged.refl : ∀ d : Doc, Rearranged d d
  | .null => .null
  | .bool b => .bool b
  | .int n => .int n
  | .float x => .float x
  | .text s => .text s
  | .array xs => .array (RearrangedItems.refl xs)
  | .object fs => .object (RearrangedFields.refl fs) (List.Perm.refl fs)

theorem RearrangedItems.refl : ∀ xs : List Doc, RearrangedItems xs xs
  | [] => .nil
  | x :: xs => .cons (Rearranged.refl x) (RearrangedItems.refl xs)

theorem RearrangedFields.refl : ∀ fs : List (String × Doc), RearrangedFields fs fs
  | [] => .nil
  | (_, x) :: fs => .cons (Rearranged.refl x) (RearrangedFields.refl fs)

end

theorem fieldTrees_eq_map (fs : List (String × Doc)) :
    fieldTrees fs = fs.map fun field => (some field.1, field.2.tree) := by
  induction fs with
  | nil => rfl
  | cons field fs ih => rw [fieldTrees, ih, List.map_cons]

theorem fieldFloats_eq_flatMap (fs : List (String × Doc)) :
    fieldFloats fs = fs.flatMap fun field => field.2.floats := by
  induction fs with
  | nil => rfl
  | cons field fs ih => rw [fieldFloats, ih, List.flatMap_cons]

mutual

theorem Rearranged.mem_floats : ∀ {d e : Doc} {x : Float}, Rearranged d e → x ∈ e.floats →
    x ∈ d.floats
  | .null, _, _, h, hx => by cases h; exact hx
  | .bool b, _, _, h, hx => by cases h; exact hx
  | .int n, _, _, h, hx => by cases h; exact hx
  | .float y, _, _, h, hx => by cases h; exact hx
  | .text s, _, _, h, hx => by cases h; exact hx
  | .array xs, _, _, h, hx => by
      cases h with
      | array hitems => exact RearrangedItems.mem_floats hitems hx
  | .object fs, _, _, h, hx => by
      cases h with
      | object hfields hperm =>
          refine RearrangedFields.mem_floats hfields ?_
          rw [Doc.floats, fieldFloats_eq_flatMap, (hperm.symm.flatMap_right _).mem_iff] at hx
          rwa [fieldFloats_eq_flatMap]

theorem RearrangedItems.mem_floats : ∀ {xs ys : List Doc} {x : Float}, RearrangedItems xs ys →
    x ∈ itemFloats ys → x ∈ itemFloats xs
  | [], _, _, h, hx => by cases h; exact hx
  | y :: ys, _, _, h, hx => by
      cases h with
      | cons hfirst hrest =>
          rw [itemFloats, List.mem_append] at hx ⊢
          exact hx.imp (Rearranged.mem_floats hfirst) (RearrangedItems.mem_floats hrest)

theorem RearrangedFields.mem_floats : ∀ {fs gs : List (String × Doc)} {x : Float},
    RearrangedFields fs gs → x ∈ fieldFloats gs → x ∈ fieldFloats fs
  | [], _, _, h, hx => by cases h; exact hx
  | (key, y) :: fs, _, _, h, hx => by
      cases h with
      | cons hfirst hrest =>
          rw [fieldFloats, List.mem_append] at hx ⊢
          exact hx.imp (Rearranged.mem_floats hfirst) (RearrangedFields.mem_floats hrest)

end

theorem fieldsArePlain_eq_all (depth : Nat) (fields : List (Option String × Value)) :
    Value.fieldsArePlain depth fields =
      fields.all fun field => field.1.isSome && field.2.isPlain depth := by
  induction fields with
  | nil => rfl
  | cons field fields ih => rw [Value.fieldsArePlain, ih, List.all_cons]

theorem fieldsArePlain_fieldTrees_perm {gs hs : List (String × Doc)} (h : gs.Perm hs)
    (depth : Nat) :
    Value.fieldsArePlain depth (fieldTrees gs) = Value.fieldsArePlain depth (fieldTrees hs) := by
  rw [fieldsArePlain_eq_all, fieldsArePlain_eq_all, fieldTrees_eq_map, fieldTrees_eq_map,
    Bool.eq_iff_iff, List.all_eq_true, List.all_eq_true]
  exact forall_congr' fun field => by rw [(h.map _).mem_iff]

mutual

theorem Rearranged.isPlain_eq : ∀ {d e : Doc} (depth : Nat), Rearranged d e →
    e.tree.isPlain depth = d.tree.isPlain depth
  | .null, _, _, h => by cases h; rfl
  | .bool b, _, _, h => by cases h; rfl
  | .int n, _, _, h => by cases h; rfl
  | .float y, _, _, h => by cases h; rfl
  | .text s, _, _, h => by cases h; rfl
  | .array xs, _, 0, h => by cases h; rfl
  | .array xs, _, depth + 1, h => by
      cases h with
      | array hitems => exact congrArg (true && ·) (RearrangedItems.arePlain_eq depth hitems)
  | .object fs, _, 0, h => by cases h; rfl
  | .object fs, _, depth + 1, h => by
      cases h with
      | object hfields hperm =>
          refine congrArg (true && ·) ?_
          rw [← fieldsArePlain_fieldTrees_perm hperm]
          exact RearrangedFields.fieldsArePlain_eq depth hfields

theorem RearrangedItems.arePlain_eq : ∀ {xs ys : List Doc} (depth : Nat), RearrangedItems xs ys →
    Value.arePlain depth (trees ys) = Value.arePlain depth (trees xs)
  | [], _, _, h => by cases h; rfl
  | y :: ys, _, depth, h => by
      cases h with
      | cons hfirst hrest =>
          rw [trees, trees, Value.arePlain, Value.arePlain, Rearranged.isPlain_eq depth hfirst,
            RearrangedItems.arePlain_eq depth hrest]

theorem RearrangedFields.fieldsArePlain_eq : ∀ {fs gs : List (String × Doc)} (depth : Nat),
    RearrangedFields fs gs →
    Value.fieldsArePlain depth (fieldTrees gs) = Value.fieldsArePlain depth (fieldTrees fs)
  | [], _, _, h => by cases h; rfl
  | (key, y) :: fs, _, depth, h => by
      cases h with
      | cons hfirst hrest =>
          rw [fieldTrees, fieldTrees, Value.fieldsArePlain, Value.fieldsArePlain,
            Rearranged.isPlain_eq depth hfirst, RearrangedFields.fieldsArePlain_eq depth hrest]

end

end Json
end CacheTier
