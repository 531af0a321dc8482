import Mathlib.Data.List.Induction
import DartTriggers.Dart.Compile
import DartTriggers.Proofs.Dart.Printed
/-!
Printing is compositional. What is printed of some declarations stands unchanged in what is printed
of more, and a unit is its header and the classes of its entities one after the other, each as it
would be printed alone.
-/

namespace DartTriggers.Dart

open Layout (lines levelAfter lines_append levelAfter_append)

theorem Declaration.allSteps_append_allSteps {ds ds' : List Declaration} (h : ds ≠ [])
    (h' : ds' ≠ []) : allSteps (ds ++ ds') = allSteps ds ++ .blank :: allSteps ds' := by
  rw [allSteps_append h]
  cases ds' with
  | nil => exact absurd rfl h'
  | cons first rest => rfl

/-- The empty line between the two texts is not indented, as the first text ends at the outermost
level. -/
theorem print_append {ds ds' : List Declaration} (h : ds ≠ []) (h' : ds' ≠ []) :
    print (ds ++ ds') = print ds ++ "\n" ++ print ds' := by
  have hlines : lines 0 (Declaration.allSteps (ds ++ ds')) =
      lines 0 (Declaration.allSteps ds) ++ "" :: lines 0 (Declaration.allSteps ds') := by
    rw [Declaration.allSteps_append_allSteps h h', lines_append, levelAfter_allSteps]
    rfl
  rw [← String.toList_inj, toList_print, hlines, unlines_append, unlines_cons]
  simp [toList_print]

theorem print_comment (text : String) : print [.comment text] = "// " ++ text ++ "\n" := by
  rw [← String.toList_inj, toList_print]
  simp [Declaration.allSteps, Declaration.steps, lines, unlines, Layout.margin]

theorem print_partOf (library : String) :
    print [.partOf library] = "part of '" ++ library ++ "';\n" := by
  rw [← String.toList_inj, toList_print]
  simp [Declaration.allSteps, Declaration.steps, lines, unlines, Layout.margin]

/-- The text of a unit before its classes. -/
def headerText (options : Options) (unit : UnitName) : String :=
  (if options.variant.hasHeader then "// " ++ generatedMarker ++ "\n\n" else "") ++
    "part of '" ++ unit.libraryFile options.extension ++ "';\n"

theorem print_unitHeader (options : Options) (unit : UnitName) :
    print (unitHeader options unit) = headerText options unit := by
  rw [unitHeader, headerText]
  split
  · rw [print_append (List.cons_ne_nil _ _) (List.cons_ne_nil _ _), print_comment, print_partOf]
    simp [← String.toList_inj]
  · rw [List.nil_append, print_partOf]
    simp

theorem unitHeader_ne_nil (options : Options) (unit : UnitName) : unitHeader options unit ≠ [] := by
  simp [unitHeader]

theorem compileEntity_ne_nil (v : Variant) (e : Entity) : compileEntity v e ≠ [] := by
  simp [compileEntity, entityClasses]

theorem compileUnit_register (options : Options) (unit : UnitName) (r : Registry) (e : Entity) :
    compileUnit options unit (r.register e).value =
      compileUnit options unit r ++ compileEntity options.variant e := by
  simp [compileUnit, Registry.register]

theorem generateUnit_register (options : Options) (unit : UnitName) (r : Registry)
    (e : Entity) : generateUnit options unit (r.register e).value =
      generateUnit options unit r ++ "\n" ++ generateEntity options.variant e := by
  have hunit : compileUnit options unit r ≠ [] :=
    List.append_ne_nil_of_left_ne_nil (unitHeader_ne_nil options unit) _
  rw [generateUnit, compileUnit_register, print_append hunit (compileEntity_ne_nil _ e)]
  rfl

/-- The induction registers the entities one after the other, beginning with the last. -/
theorem generateUnit_eq_join (options : Options) (unit : UnitName) (es : List Entity) :
    generateUnit options unit ⟨es⟩ = headerText options unit ++
      String.join (es.map fun e => "\n" ++ generateEntity options.variant e) := by
  induction es using List.reverseRecOn with
  | nil =>
      rw [generateUnit, compileUnit, List.flatMap_nil, List.append_nil, print_unitHeader]
      simp
  | append_singleton es e ih =>
      have hregister : (⟨es ++ [e]⟩ : Registry) = (Registry.register ⟨es⟩ e).value := rfl
      rw [hregister, generateUnit_register, ih, List.map_append, String.join_append]
      simp [String.append_assoc]

/-- What is printed of declarations that follow each other is their texts with an empty line between
them, so a unit is its header and, after an empty line each, the classes of its entities as they
are printed alone; registering an entity only adds to it. -/
theorem print_compositional :
    (∀ ds ds' : List Declaration, ds ≠ [] → ds' ≠ [] →
      print (ds ++ ds') = print ds ++ "\n" ++ print ds') ∧
    (∀ (options : Options) (unit : UnitName) (r : Registry),
      generateUnit options unit r = headerText options unit ++
        String.join (r.entities.map fun e => "\n" ++ generateEntity options.variant e)) ∧
    ∀ (options : Options) (unit : UnitName) (r : Registry) (e : Entity),
      generateUnit options unit (r.register e).value =
        generateUnit options unit r ++ "\n" ++ generateEntity options.variant e :=
  ⟨fun _ _ => print_append, fun options unit r => generateUnit_eq_join options unit r.entities,
    generateUnit_register⟩

/-- A text of two lines before a class with a getter in a block. -/
theorem print_compositional_getter :
    let notice : List Declaration := [.comment "two\nlines"]
    let getter : Member := .getter "AField" "x" (.block ["return this;"])
    let selector : List Declaration := [.classDecl { name := "AField", members := [getter] }]
    print (notice ++ selector) = "// two\nlines\n" ++ "\n" ++
      "class AField \x7b\n  AField get x \x7b\n    return this;\n  \x7d\n\x7d\n" := by
  intro notice getter selector
  have hnotice : print notice = "// two\nlines\n" := by decide
  have hselector : print selector =
      "class AField \x7b\n  AField get x \x7b\n    return this;\n  \x7d\n\x7d\n" := by decide
  rw [print_compositional.1 notice selector (List.cons_ne_nil _ _) (List.cons_ne_nil _ _), hnotice,
    hselector]

end DartTriggers.Dart
