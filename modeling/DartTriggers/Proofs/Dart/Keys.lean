import DartTriggers.Proofs.Check.Errors
import DartTriggers.Proofs.Dart.Accessors
import DartTriggers.Proofs.Dart.Unambiguous
/-!
Keys: the names of attributes as they stand in the string literals of the accessors. When a check
finds no error, a key is the name itself unless there is a `$` in it, at which an interpolation
starts.
-/

namespace DartTriggers.Dart

/-- Where a reader of Dart source is: between literals, or in a literal with its quote and what has
been read of it. -/
inductive Place where
  | between
  | inside (quote : Char) (read : List Char)

/-- Whether a character other than the quote stands for itself in a literal: it does not start an
escape or an interpolation, and does not break the line. -/
def standsForItself (c : Char) : Bool :=
  c != '\\' && c != '$' && c != '\n' && c != '\r'

/-- The strings that the literals of a source denote. There is no answer where a character does not
stand for itself or a literal is not closed; raw literals and those of several lines, of which the
source of an accessor has none, are not told apart. -/
def literalsFrom : Place → List Char → Option (List String)
  | .between, [] => some []
  | .inside _ _, [] => none
  | .between, c :: source =>
      if c = '\'' ∨ c = '"' then literalsFrom (.inside c []) source
      else literalsFrom .between source
  | .inside quote read, c :: source =>
      if c = quote then (literalsFrom .between source).map (String.ofList read :: ·)
      else if standsForItself c then literalsFrom (.inside quote (read ++ [c])) source
      else none

def literals? (source : String) : Option (List String) :=
  literalsFrom .between source.toList

/-- The strings that the literals of a body denote, statement by statement. -/
def Body.literals? : Body → Option (List String)
  | .arrow expression => Dart.literals? expression
  | .block statements => (statements.mapM Dart.literals?).map List.flatten

def NoQuote (source : List Char) : Prop :=
  '\'' ∉ source ∧ '"' ∉ source

instance (source : List Char) : Decidable (NoQuote source) :=
  inferInstanceAs (Decidable (_ ∧ _))

theorem literalsFrom_between {before : List Char} (h : NoQuote before) (source : List Char) :
    literalsFrom .between (before ++ source) = literalsFrom .between source := by
  induction before with
  | nil => rfl
  | cons c before ih =>
      obtain ⟨hsingle, hdouble⟩ := h
      rw [List.mem_cons, not_or] at hsingle hdouble
      rw [List.cons_append, literalsFrom, if_neg (not_or.mpr ⟨Ne.symm hsingle.1, Ne.symm hdouble.1⟩)]
      exact ih ⟨hsingle.2, hdouble.2⟩

theorem literalsFrom_inside {quote : Char} {word : List Char} (hquote : quote ∉ word)
    (hword : ∀ c ∈ word, standsForItself c = true) (read source : List Char) :
    literalsFrom (.inside quote read) (word ++ quote :: source) =
      (literalsFrom .between source).map (String.ofList (read ++ word) :: ·) := by
  induction word generalizing read with
  | nil => rw [List.nil_append, literalsFrom, if_pos rfl, List.append_nil]
  | cons c word ih =>
      rw [List.mem_cons, not_or] at hquote
      rw [List.forall_mem_cons] at hword
      rw [List.cons_append, literalsFrom, if_neg (Ne.symm hquote.1), if_pos hword.1,
        ih hquote.2 hword.2, List.append_assoc, List.singleton_append]

theorem literalsFrom_inside_eq_none {quote c : Char} {word : List Char} (hquote : quote ∉ word)
    (hmem : c ∈ word) (hc : standsForItself c = false) (read source : List Char) :
    literalsFrom (.inside quote read) (word ++ source) = none := by
  induction word generalizing read with
  | nil => cases hmem
  | cons first word ih =>
      rw [List.mem_cons, not_or] at hquote
      rw [List.cons_append, literalsFrom, if_neg (Ne.symm hquote.1)]
      split
      · next hfirst =>
          rcases List.mem_cons.mp hmem with rfl | hmem
          · rw [hc] at hfirst
            cases hfirst
          · exact ih hquote.2 hmem _
      · rfl

/-- A name that does not end a literal or a line and does not start an escape. -/
def Plain (name : String) : Prop :=
  ∀ c ∈ name.toList, c ≠ '\'' ∧ c ≠ '"' ∧ c ≠ '\\' ∧ c ≠ '\n' ∧ c ≠ '\r'

theorem plain_of_isIdentifier {name : String} (h : Check.isIdentifier name = true) :
    Plain name := by
  have hnot : ∀ c ∈ name.toList, ∀ d, Check.isIdentifierPart d = false → c ≠ d := by
    rintro c hc d hd rfl
    exact not_mem_of_isIdentifier h hd hc
  intro c hc
  refine ⟨hnot c hc _ ?_, hnot c hc _ ?_, hnot c hc _ ?_, hnot c hc _ ?_, hnot c hc _ ?_⟩
  all_goals decide

theorem literals?_quoted {quote : Char} (hquote : quote = '\'' ∨ quote = '"') {name : String}
    (hname : Plain name) {source before after : String}
    (hsource : source.toList = before.toList ++ quote :: (name.toList ++ quote :: after.toList))
    (hbefore : NoQuote before.toList) (hafter : NoQuote after.toList) :
    literals? source = if '$' ∈ name.toList then none else some [name] := by
  have hnot : quote ∉ name.toList := by
    intro hmem
    rcases hquote with rfl | rfl
    · exact (hname _ hmem).1 rfl
    · exact (hname _ hmem).2.1 rfl
  have hrest : literalsFrom .between after.toList = some [] := by
    have h := literalsFrom_between hafter []
    rwa [List.append_nil] at h
  rw [literals?, hsource, literalsFrom_between hbefore, literalsFrom, if_pos hquote]
  split
  · next hdollar => exact literalsFrom_inside_eq_none hnot hdollar (by decide) _ _
  · next hdollar =>
      have hstands : ∀ c ∈ name.toList, standsForItself c = true := by
        intro c hc
        have hne : c ≠ '$' := by
          rintro rfl
          exact hdollar hc
        obtain ⟨-, -, hescape, hfeed, hreturn⟩ := hname c hc
        simp [standsForItself, hescape, hne, hfeed, hreturn]
      rw [literalsFrom_inside hnot hstands, hrest, List.nil_append, String.ofList_toList]
      rfl

theorem literals?_getValue (p : Property) (hname : Plain p.name) :
    (Body.arrow p.readExpression).literals? =
      if '$' ∈ p.name.toList then none else some [p.name] := by
  have hsource : p.readExpression.toList = "getValue(".toList ++
      '\'' :: (p.name.toList ++ '\'' :: (if p.nullable then ")" else ")!").toList) := by
    rw [Property.readExpression]
    cases p.nullable <;> simp
  refine literals?_quoted (.inl rfl) hname hsource (by decide) ?_
  split <;> decide

theorem literals?_setValue {name : String} (hname : Plain name) :
    (Body.arrow ("setValue('" ++ name ++ "', val)")).literals? =
      if '$' ∈ name.toList then none else some [name] := by
  have hsource : ("setValue('" ++ name ++ "', val)").toList = "setValue(".toList ++
      '\'' :: (name.toList ++ '\'' :: ", val)".toList) := by
    simp
  exact literals?_quoted (.inl rfl) hname hsource (by decide) (by decide)

theorem literals?_addField {name : String} (hname : Plain name) :
    (Body.block ["addField('" ++ name ++ "');", "return this;"]).literals? =
      if '$' ∈ name.toList then none else some [name] := by
  have hsource : ("addField('" ++ name ++ "');").toList = "addField(".toList ++
      '\'' :: (name.toList ++ '\'' :: ");".toList) := by
    simp
  have hfirst := literals?_quoted (.inl rfl) hname hsource (by decide) (by decide)
  have hsecond : literals? "return this;" = some [] := by decide
  rw [Body.literals?, List.mapM_cons, List.mapM_cons, List.mapM_nil, hfirst, hsecond]
  split <;> rfl

theorem literals?_map {name : String} (hname : Plain name) :
    (Body.arrow ("_map[\"" ++ name ++ "\"] = val")).literals? =
      if '$' ∈ name.toList then none else some [name] := by
  have hsource : ("_map[\"" ++ name ++ "\"] = val").toList = "_map[".toList ++
      '"' :: (name.toList ++ '"' :: "] = val".toList) := by
    simp
  exact literals?_quoted (.inr rfl) hname hsource (by decide) (by decide)

theorem literals?_accessor {v : Variant} {e : Entity} {c : ClassDecl} (hc : c ∈ entityClasses v e)
    {a : Accessor} (ha : a ∈ c.getters ++ c.setters) (hname : Plain a.name) :
    a.body.literals? = if '$' ∈ a.name.toList then none else some [a.name] := by
  rcases List.mem_append.mp hc with hc | hc
  · rcases List.mem_cons.mp hc with rfl | hc
    · rw [getters_holder, setters_holder] at ha
      rcases List.mem_append.mp ha with ha | ha
      · obtain ⟨p, -, rfl⟩ := List.mem_map.mp ha
        exact literals?_getValue p hname
      · obtain ⟨p, -, rfl⟩ := List.mem_map.mp ha
        exact literals?_setValue hname
    · rw [List.mem_singleton.mp hc, getters_selector, setters_selector, List.append_nil] at ha
      obtain ⟨p, -, rfl⟩ := List.mem_map.mp ha
      exact literals?_addField hname
  · split at hc
    · rw [List.mem_singleton.mp hc, getters_batchSetter, setters_batchSetter, List.nil_append] at ha
      obtain ⟨p, -, rfl⟩ := List.mem_map.mp ha
      exact literals?_map hname
    · cases hc

theorem exists_getter {v : Variant} {e : Entity} {name : String} (hname : name ∈ e.attributeNames) :
    ∃ c ∈ entityClasses v e, ∃ a ∈ c.getters, a.name = name := by
  refine ⟨holder v e.name (properties v e), List.mem_append_left _ List.mem_cons_self, ?_⟩
  obtain ⟨found, hfound, rfl⟩ := List.mem_map.mp hname
  rw [getters_holder]
  exact ⟨_, List.mem_map_of_mem (List.mem_map_of_mem hfound), rfl⟩

/-- When a check finds no error, no name ends the literals that it stands in or starts an escape, and
the getters, setters and selectors of an attribute have its name as their only key exactly if there
is no `$` in it. -/
theorem keys_literal_iff {r : Registry} (h : ∀ d ∈ Check.all r, d.isError = false) (v : Variant)
    {e : Entity} (he : e ∈ r.entities) {name : String} (hname : name ∈ e.attributeNames) :
    Plain name ∧
      ((∀ c ∈ entityClasses v e, ∀ a ∈ c.getters ++ c.setters, a.name = name →
        a.body.literals? = some [name]) ↔ '$' ∉ name.toList) := by
  obtain ⟨-, hclean⟩ := (Check.forall_all_iff r).mp h
  have hplain : Plain name := plain_of_isIdentifier ((hclean e he).2.2 name hname)
  refine ⟨hplain, ?_, ?_⟩
  · intro hkeys hdollar
    obtain ⟨c, hc, a, ha, rfl⟩ := exists_getter (v := v) hname
    have hkey := hkeys c hc a (List.mem_append_left _ ha) rfl
    rw [literals?_accessor hc (List.mem_append_left _ ha) hplain, if_pos hdollar] at hkey
    cases hkey
  · rintro hdollar c hc a ha rfl
    rw [literals?_accessor hc ha hplain, if_neg hdollar]

def price : Entity :=
  ⟨"Price", [⟨"_amount0", .float, some "0.5"⟩, ⟨"$value2", .text, none⟩]⟩

theorem keys_literal_amount :
    (∀ d ∈ Check.all ⟨[price]⟩, d.isError = false) ∧ "_amount0" ∈ price.attributeNames ∧
      Plain "_amount0" ∧ ∀ c ∈ entityClasses .extended price, ∀ a ∈ c.getters ++ c.setters,
        a.name = "_amount0" → a.body.literals? = some ["_amount0"] := by
  have h : ∀ d ∈ Check.all ⟨[price]⟩, d.isError = false := by decide
  have hname : "_amount0" ∈ price.attributeNames := by decide
  obtain ⟨hplain, hkeys⟩ := keys_literal_iff h .extended List.mem_cons_self hname
  exact ⟨h, hname, hplain, hkeys.mpr (by decide)⟩

theorem not_keys_literal_dollar :
    (∀ d ∈ Check.all ⟨[price]⟩, d.isError = false) ∧ "$value2" ∈ price.attributeNames ∧
      ∀ v, ¬ ∀ c ∈ entityClasses v price, ∀ a ∈ c.getters ++ c.setters, a.name = "$value2" →
        a.body.literals? = some ["$value2"] := by
  have hname : "$value2" ∈ price.attributeNames := by decide
  refine ⟨by decide, hname, fun v hkeys => ?_⟩
  obtain ⟨c, hc, a, ha, hsame⟩ := exists_getter hname
  have hkey := hkeys c hc a (List.mem_append_left _ ha) hsame
  have hplain : Plain a.name := by
    rw [hsame]
    exact plain_of_isIdentifier (by decide)
  rw [literals?_accessor hc (List.mem_append_left _ ha) hplain, hsame, if_pos (by decide)] at hkey
  cases hkey

end DartTriggers.Dart
