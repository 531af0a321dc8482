import DartTriggers.Log.Transcript
/-!
The outputs of a transcript and the files that are formatted, piece by piece.
-/

namespace DartTriggers.Transcript

@[simp]
theorem out_nil : out [] = "" :=
  rfl

@[simp]
theorem out_append (t u : Transcript) : out (t ++ u) = out t ++ out u := by
  simp [out]

@[simp]
theorem out_singleton (text : String) : out [.out text] = text := by
  simp [out]

@[simp]
theorem out_outLine (text : String) : out [outLine text] = text ++ "\n" := by
  simp [out, outLine]

@[simp]
theorem out_errLine (text : String) : out [errLine text] = "" := by
  simp [out, errLine]

@[simp]
theorem out_ofEvents (events : List Log.Event) : out (ofEvents events) = "" := by
  induction events with
  | nil => rfl
  | cons event events ih => exact ih

@[simp]
theorem formatted_nil : formatted [] = [] :=
  rfl

@[simp]
theorem formatted_append (t u : Transcript) : formatted (t ++ u) = formatted t ++ formatted u :=
  List.filterMap_append

@[simp]
theorem formatted_ofEvents (events : List Log.Event) : formatted (ofEvents events) = [] := by
  induction events with
  | nil => rfl
  | cons event events ih => exact ih

theorem out_flatMap_eq_empty {α : Type} {shown : α → Transcript} {l : List α}
    (h : ∀ x ∈ l, out (shown x) = "") : out (l.flatMap shown) = "" := by
  induction l with
  | nil => rfl
  | cons x l ih =>
      rw [List.forall_mem_cons] at h
      rw [List.flatMap_cons, out_append, h.1, ih h.2]
      rfl

end DartTriggers.Transcript
