import FilterBook.Proofs.Gate

/-!
The grammar of definitions, as rules of derivation. The gate accepts what the rules derive and
nothing else; of several faults it reports the first, expressions before conditions.
-/

namespace FilterBook

open Outcome

/-- What may fill a slot: the name of a condition there is, or a node of a known operator that has
its own operands and no others. -/
inductive Slot.Derivable (conditions : Dict Condition) : Slot → Prop
  | name {named : String} (hnamed : named ∈ conditions.names) : Derivable conditions (.name named)
  | binary {op : String} {left right : Slot} (hop : op ∈ ["and", "or", "nor"])
      (hleft : Derivable conditions left) (hright : Derivable conditions right) :
      Derivable conditions (.node op .empty left right)
  | unary {op : String} {condition : Slot} (hop : op ∈ ["use", "not", "match_element"])
      (hcondition : Derivable conditions condition) :
      Derivable conditions (.node op condition .empty .empty)

/-- An expression is derived by the rules and does not nest too deep. -/
structure Expression.Grammatical (conditions : Dict Condition) (e : Expression) : Prop where
  derivable : e.toSlot.Derivable conditions
  depth_le : e.depth ≤ greatestDepth

/-- A condition compares a named field by a known operator with a value of the right kind. -/
structure Condition.Grammatical (c : Condition) : Prop where
  prop_ne : c.prop ≠ ""
  op_known : c.op ∈ ConditionOp.all.map ConditionOp.name
  value_ne : c.value ≠ .list []
  value_list : c.op ∈ ["is_one_of", "is_not_one_of"] → ∃ values, c.value = .list values

namespace Definition

structure Grammatical (d : Definition) : Prop where
  expressions_ne : d.expressions.entries ≠ []
  conditions_ne : d.conditions.entries ≠ []
  expressions : ∀ entry ∈ d.expressions.entries, entry.2.Grammatical d.conditions
  conditions : ∀ entry ∈ d.conditions.entries, entry.2.Grammatical

end Definition

/-- How a violation names an entry of a table. -/
def Table.entry (table : Table) (name : String) : String :=
  table.text ++ "." ++ name

/-- The fault that is reported: an empty table, or else the violation of the first entry that has
one. Conditions come after all expressions. -/
inductive Definition.FirstFault (d : Definition) : Error → Prop
  | noExpressions (hexpressions : d.expressions.entries = []) :
      FirstFault d (.emptyInput .expressions)
  | noConditions (hexpressions : d.expressions.entries ≠ [])
      (hconditions : d.conditions.entries = []) : FirstFault d (.emptyInput .conditions)
  | expression {before after : List (String × Expression)} {name : String} {e : Expression}
      {steps : List SlotName} {part : Option Part} {reason : Reason}
      (hconditions : d.conditions.entries ≠ [])
      (hentries : d.expressions.entries = before ++ (name, e) :: after)
      (hbefore : ∀ entry ∈ before, entry.2.Grammatical d.conditions)
      (hcheck : e.check (Table.expressions.entry name) d.conditions =
        .error (.schemaViolation ⟨Table.expressions.entry name, steps, part⟩ reason)) :
      FirstFault d (.schemaViolation ⟨Table.expressions.entry name, steps, part⟩ reason)
  | condition {before after : List (String × Condition)} {name : String} {c : Condition}
      {part : Option Part} {reason : Reason}
      (hexpressions : d.expressions.entries ≠ [])
      (hall : ∀ entry ∈ d.expressions.entries, entry.2.Grammatical d.conditions)
      (hentries : d.conditions.entries = before ++ (name, c) :: after)
      (hbefore : ∀ entry ∈ before, entry.2.Grammatical)
      (hcheck : c.check (Table.conditions.entry name) =
        .error (.schemaViolation ⟨Table.conditions.entry name, [], part⟩ reason)) :
      FirstFault d (.schemaViolation ⟨Table.conditions.entry name, [], part⟩ reason)

namespace ExpressionOp

theorem isBinary_iff {op : ExpressionOp} :
    op.isBinary = true ↔ op.name ∈ ["and", "or", "nor"] := by
  cases op <;> decide

theorem not_isBinary_iff {op : ExpressionOp} :
    op.isBinary = false ↔ op.name ∈ ["use", "not", "match_element"] := by
  cases op <;> decide

theorem exists_binary {name : String} (h : name ∈ ["and", "or", "nor"]) :
    ∃ op : ExpressionOp, op.name = name ∧ op.isBinary = true := by
  simp only [List.mem_cons, List.not_mem_nil, or_false] at h
  rcases h with rfl | rfl | rfl
  · exact ⟨.and, rfl, rfl⟩
  · exact ⟨.or, rfl, rfl⟩
  · exact ⟨.nor, rfl, rfl⟩

theorem exists_unary {name : String} (h : name ∈ ["use", "not", "match_element"]) :
    ∃ op : ExpressionOp, op.name = name ∧ op.isBinary = false := by
  simp only [List.mem_cons, List.not_mem_nil, or_false] at h
  rcases h with rfl | rfl | rfl
  · exact ⟨.use, rfl, rfl⟩
  · exact ⟨.not, rfl, rfl⟩
  · exact ⟨.matchElement, rfl, rfl⟩

end ExpressionOp

namespace Slot

variable {entry : String} {conditions : Dict Condition}

theorem Derivable.filled {slot : Slot} (h : slot.Derivable conditions) :
    slot.Filled conditions := by
  cases h with
  | name hnamed => exact hnamed
  | binary => trivial
  | unary => trivial

/-- A node fits exactly when it can be the root of a derivation: its operator is known, its own
slots are filled and the others empty. -/
theorem fits_iff {op : String} {condition left right : Slot} {steps : List SlotName} {depth : Nat} :
    (∃ known, Waiting.Fits conditions ⟨steps, ⟨op, condition, left, right⟩, depth⟩ known) ↔
      depth ≤ greatestDepth ∧
        ((op ∈ ["and", "or", "nor"] ∧ condition = .empty ∧ left.Filled conditions ∧
            right.Filled conditions) ∨
          (op ∈ ["use", "not", "match_element"] ∧ condition.Filled conditions ∧ left = .empty ∧
            right = .empty)) := by
  constructor
  · rintro ⟨known, rfl, hdepth, hunused, hused⟩
    refine ⟨hdepth, ?_⟩
    cases hop : known.isBinary with
    | true =>
        obtain ⟨husedSlots, hunusedSlots⟩ := ExpressionOp.usedSlots_of_isBinary hop
        rw [hunusedSlots, List.forall_mem_singleton] at hunused
        rw [husedSlots, List.forall_mem_cons, List.forall_mem_singleton] at hused
        exact Or.inl ⟨ExpressionOp.isBinary_iff.mp hop, hunused, hused⟩
    | false =>
        obtain ⟨husedSlots, hunusedSlots⟩ := ExpressionOp.usedSlots_of_not_isBinary hop
        rw [hunusedSlots, List.forall_mem_cons, List.forall_mem_singleton] at hunused
        rw [husedSlots, List.forall_mem_singleton] at hused
        exact Or.inr ⟨ExpressionOp.not_isBinary_iff.mp hop, hused, hunused⟩
  · rintro ⟨hdepth, ⟨hname, hcondition, hoperands⟩ | ⟨hname, hoperand, hothers⟩⟩
    · obtain ⟨known, hknown, hop⟩ := ExpressionOp.exists_binary hname
      obtain ⟨husedSlots, hunusedSlots⟩ := ExpressionOp.usedSlots_of_isBinary hop
      refine ⟨known, hknown, hdepth, ?_, ?_⟩
      · rw [hunusedSlots, List.forall_mem_singleton]
        exact hcondition
      · rw [husedSlots, List.forall_mem_cons, List.forall_mem_singleton]
        exact hoperands
    · obtain ⟨known, hknown, hop⟩ := ExpressionOp.exists_unary hname
      obtain ⟨husedSlots, hunusedSlots⟩ := ExpressionOp.usedSlots_of_not_isBinary hop
      refine ⟨known, hknown, hdepth, ?_, ?_⟩
      · rw [hunusedSlots, List.forall_mem_cons, List.forall_mem_singleton]
        exact hothers
      · rw [husedSlots, List.forall_mem_singleton]
        exact hoperand

/-- The check of a filled slot below a node that is not too deep itself. -/
theorem check_eq_ok_iff {slot : Slot} (hfilled : slot.Filled conditions) {steps : List SlotName}
    {depth : Nat} (hdepth : depth ≤ greatestDepth + 1) :
    slot.check entry conditions steps depth = .ok () ↔
      slot.Derivable conditions ∧ slot.depth + depth ≤ greatestDepth + 1 := by
  induction slot generalizing steps depth with
  | empty => exact absurd hfilled filled_empty
  | name named =>
      simp only [check, true_iff, Slot.depth, Nat.zero_add]
      exact ⟨.name hfilled, hdepth⟩
  | node op condition left right ihcondition ihleft ihright =>
      rw [check_node_eq_ok_iff, fits_iff]
      constructor
      · rintro ⟨⟨hlevel, hcase⟩, hright, hleft, hcondition⟩
        have hbelow : depth + 1 ≤ greatestDepth + 1 := Nat.succ_le_succ hlevel
        rcases hcase with ⟨hop, rfl, hfilledLeft, hfilledRight⟩ | ⟨hop, hfilledOnly, rfl, rfl⟩
        · obtain ⟨hderLeft, hlenLeft⟩ := (ihleft hfilledLeft hbelow).mp hleft
          obtain ⟨hderRight, hlenRight⟩ := (ihright hfilledRight hbelow).mp hright
          refine ⟨.binary hop hderLeft hderRight, ?_⟩
          simp only [Slot.depth]
          omega
        · obtain ⟨hderivable, hlength⟩ := (ihcondition hfilledOnly hbelow).mp hcondition
          refine ⟨.unary hop hderivable, ?_⟩
          simp only [Slot.depth]
          omega
      · rintro ⟨hderivable, hlength⟩
        have hlevel : depth ≤ greatestDepth := by
          simp only [Slot.depth] at hlength
          omega
        have hbelow : depth + 1 ≤ greatestDepth + 1 := Nat.succ_le_succ hlevel
        simp only [Slot.depth] at hlength
        cases hderivable with
        | binary hop hleft hright =>
            refine ⟨⟨hlevel, Or.inl ⟨hop, rfl, hleft.filled, hright.filled⟩⟩, ?_, ?_, rfl⟩
            · exact (ihright hright.filled hbelow).mpr ⟨hright, by omega⟩
            · exact (ihleft hleft.filled hbelow).mpr ⟨hleft, by omega⟩
        | unary hop hcondition =>
            refine ⟨⟨hlevel, Or.inr ⟨hop, hcondition.filled, rfl, rfl⟩⟩, rfl, rfl, ?_⟩
            exact (ihcondition hcondition.filled hbelow).mpr ⟨hcondition, by omega⟩

/-- The rules ask of the conditions only which names there are. -/
theorem Derivable.mono {slot : Slot} {others : Dict Condition}
    (hnames : ∀ name ∈ conditions.names, name ∈ others.names) (h : slot.Derivable conditions) :
    slot.Derivable others := by
  induction h with
  | name hnamed => exact .name (hnames _ hnamed)
  | binary hop _ _ ihleft ihright => exact .binary hop ihleft ihright
  | unary hop _ ihcondition => exact .unary hop ihcondition

end Slot

theorem Expression.Grammatical.mono {e : Expression} {conditions others : Dict Condition}
    (hnames : ∀ name ∈ conditions.names, name ∈ others.names) (h : e.Grammatical conditions) :
    e.Grammatical others :=
  ⟨h.derivable.mono hnames, h.depth_le⟩

/-- The gate accepts an expression exactly when it follows the grammar. -/
theorem Expression.check_eq_ok_iff {entry : String} {e : Expression} {conditions : Dict Condition} :
    e.check entry conditions = .ok () ↔ e.Grammatical conditions := by
  have hroot : e.toSlot.Filled conditions := Slot.filled_node
  rw [e.check_eq_check, Slot.check_eq_ok_iff hroot (by decide)]
  constructor
  · rintro ⟨hderivable, hdepth⟩
    exact ⟨hderivable, Nat.le_of_succ_le_succ hdepth⟩
  · rintro ⟨hderivable, hdepth⟩
    exact ⟨hderivable, Nat.succ_le_succ hdepth⟩

namespace Condition

variable {entry : String} {c : Condition}

theorem check_eq_error {fault : Error} (h : c.check entry = .error fault) :
    ∃ part reason, fault = .schemaViolation ⟨entry, [], part⟩ reason := by
  simp only [check] at h
  split at h
  · cases h
    exact ⟨_, _, rfl⟩
  split at h
  · cases h
    exact ⟨_, _, rfl⟩
  split at h
  · cases h
    exact ⟨_, _, rfl⟩
  · cases h
  · split at h
    · cases h
      exact ⟨_, _, rfl⟩
    · cases h

theorem requiresList_iff {op : ConditionOp} :
    op.requiresList = true ↔ op.name ∈ ["is_one_of", "is_not_one_of"] := by
  cases op <;> decide

/-- The gate accepts a condition exactly when it follows the grammar. -/
theorem check_eq_ok_iff : c.check entry = .ok () ↔ c.Grammatical := by
  constructor
  · intro h
    simp only [check] at h
    split at h
    · cases h
    rename_i hprop
    split at h
    · cases h
    rename_i op hop
    have hname : op.name = c.op := ConditionOp.ofName?_eq_some_iff.mp hop
    refine ⟨fun hempty => hprop (by rw [hempty]; rfl), ?_, ?_, ?_⟩
    · rw [← hname]
      exact List.mem_map_of_mem (by cases op <;> decide)
    · intro hvalue
      rw [hvalue] at h
      cases h
    · intro hlist
      rw [← hname] at hlist
      cases hvalue : c.value with
      | list values => exact ⟨values, rfl⟩
      | scalar value =>
          rw [hvalue, requiresList_iff.mpr hlist] at h
          cases h
  · rintro ⟨hprop, hknown, hvalue, hlist⟩
    obtain ⟨op, -, hop⟩ := List.mem_map.mp hknown
    have hparse : ConditionOp.ofName? c.op = some op := ConditionOp.ofName?_eq_some_iff.mpr hop
    have hprop' : c.prop.isEmpty = false := by
      simpa using hprop
    simp only [check, hprop', hparse, Bool.false_eq_true, if_false]
    cases hkind : c.value with
    | list values =>
        cases values with
        | nil => exact absurd hkind hvalue
        | cons first rest => rfl
    | scalar value =>
        cases hrequires : op.requiresList with
        | false => rfl
        | true =>
            rw [requiresList_iff, hop] at hrequires
            obtain ⟨values, hvalues⟩ := hlist hrequires
            rw [hkind] at hvalues
            cases hvalues

end Condition

namespace Definition

variable {d : Definition}

/-- Both tables are walked in order once neither is empty. -/
theorem check_of_ne (hexpressions : d.expressions.entries ≠ [])
    (hconditions : d.conditions.entries ≠ []) :
    d.check = (do
      forM d.expressions.entries fun e => e.2.check (Table.expressions.entry e.1) d.conditions
      forM d.conditions.entries fun c => c.2.check (Table.conditions.entry c.1)) := by
  have hexpressions' : d.expressions.isEmpty = false := by simpa [Dict.isEmpty] using hexpressions
  have hconditions' : d.conditions.isEmpty = false := by simpa [Dict.isEmpty] using hconditions
  rw [check, hexpressions', hconditions']
  rfl

/-- A definition passes when both walks do, the first by recursion over the trees. -/
theorem check_of_walks (hexpressions : d.expressions.entries ≠ [])
    (hconditions : d.conditions.entries ≠ [])
    (hwalk : (forM d.expressions.entries fun e =>
      e.2.toSlot.check (Table.expressions.entry e.1) d.conditions [] 1 :
        Except Error Unit) = .ok ())
    (hrest : (forM d.conditions.entries fun c =>
      c.2.check (Table.conditions.entry c.1) : Except Error Unit) = .ok ()) :
    d.check = .ok () := by
  rw [check_of_ne hexpressions hconditions]
  simp only [Expression.check_eq_check, hwalk, ok_bind]
  exact hrest

theorem check_of_no_expressions (hexpressions : d.expressions.entries = []) :
    d.check = .error (.emptyInput .expressions) := by
  have hempty : d.expressions.isEmpty = true := by simpa [Dict.isEmpty] using hexpressions
  rw [check, hempty]
  rfl

theorem check_of_no_conditions (hexpressions : d.expressions.entries ≠ [])
    (hconditions : d.conditions.entries = []) : d.check = .error (.emptyInput .conditions) := by
  have hexpressions' : d.expressions.isEmpty = false := by simpa [Dict.isEmpty] using hexpressions
  have hconditions' : d.conditions.isEmpty = true := by simpa [Dict.isEmpty] using hconditions
  rw [check, hexpressions', hconditions']
  rfl

theorem check_eq_ok_iff : d.check = .ok () ↔ d.Grammatical := by
  constructor
  · intro h
    by_cases hexpressions : d.expressions.entries = []
    · rw [check_of_no_expressions hexpressions] at h
      cases h
    by_cases hconditions : d.conditions.entries = []
    · rw [check_of_no_conditions hexpressions hconditions] at h
      cases h
    rw [check_of_ne hexpressions hconditions, bind_eq_ok_iff] at h
    obtain ⟨_, hwalk, hrest⟩ := h
    exact ⟨hexpressions, hconditions,
      fun entry hentry => Expression.check_eq_ok_iff.mp (forM_eq_ok_iff.mp hwalk entry hentry),
      fun entry hentry => Condition.check_eq_ok_iff.mp (forM_eq_ok_iff.mp hrest entry hentry)⟩
  · intro h
    rw [check_of_ne h.expressions_ne h.conditions_ne, bind_eq_ok_iff]
    refine ⟨(), forM_eq_ok_iff.mpr ?_, forM_eq_ok_iff.mpr ?_⟩
    · intro entry hentry
      exact Expression.check_eq_ok_iff.mpr (h.expressions entry hentry)
    · intro entry hentry
      exact Condition.check_eq_ok_iff.mpr (h.conditions entry hentry)

theorem firstFault_of_check {fault : Error} (h : d.check = .error fault) : d.FirstFault fault := by
  by_cases hexpressions : d.expressions.entries = []
  · rw [check_of_no_expressions hexpressions] at h
    cases h
    exact .noExpressions hexpressions
  by_cases hconditions : d.conditions.entries = []
  · rw [check_of_no_conditions hexpressions hconditions] at h
    cases h
    exact .noConditions hexpressions hconditions
  rw [check_of_ne hexpressions hconditions] at h
  rcases bind_eq_error_iff.mp h with h | ⟨_, hwalk, h⟩
  · obtain ⟨before, ⟨name, e⟩, after, hentries, hbefore, he⟩ := forM_eq_error_iff.mp h
    have hslot := he
    simp only [Expression.check_eq_check] at hslot
    obtain ⟨steps, part, reason, rfl⟩ := Slot.check_eq_error hslot
    exact .expression hconditions hentries
      (fun entry hentry => Expression.check_eq_ok_iff.mp (hbefore entry hentry)) he
  · obtain ⟨before, ⟨name, c⟩, after, hentries, hbefore, hc⟩ := forM_eq_error_iff.mp h
    obtain ⟨part, reason, rfl⟩ := Condition.check_eq_error hc
    exact .condition hexpressions
      (fun entry hentry => Expression.check_eq_ok_iff.mp (forM_eq_ok_iff.mp hwalk entry hentry))
      hentries (fun entry hentry => Condition.check_eq_ok_iff.mp (hbefore entry hentry)) hc

theorem check_of_firstFault {fault : Error} (h : d.FirstFault fault) : d.check = .error fault := by
  cases h with
  | noExpressions hexpressions => exact check_of_no_expressions hexpressions
  | noConditions hexpressions hconditions =>
      exact check_of_no_conditions hexpressions hconditions
  | expression hconditions hentries hbefore hcheck =>
      have hexpressions : d.expressions.entries ≠ [] := by simp [hentries]
      rw [check_of_ne hexpressions hconditions, bind_eq_error_iff, forM_eq_error_iff]
      exact Or.inl ⟨_, _, _, hentries,
        fun entry hentry => Expression.check_eq_ok_iff.mpr (hbefore entry hentry), hcheck⟩
  | condition hexpressions hall hentries hbefore hcheck =>
      have hconditions : d.conditions.entries ≠ [] := by simp [hentries]
      rw [check_of_ne hexpressions hconditions, bind_eq_error_iff]
      refine Or.inr ⟨(), forM_eq_ok_iff.mpr ?_, forM_eq_error_iff.mpr ?_⟩
      · intro entry hentry
        exact Expression.check_eq_ok_iff.mpr (hall entry hentry)
      · exact ⟨_, _, _, hentries,
          fun entry hentry => Condition.check_eq_ok_iff.mpr (hbefore entry hentry), hcheck⟩

/-- The order of the entries is of no account to the rules. -/
theorem Grammatical.perm {other : Definition}
    (hexpressions : d.expressions.entries.Perm other.expressions.entries)
    (hconditions : d.conditions.entries.Perm other.conditions.entries) (h : d.Grammatical) :
    other.Grammatical where
  expressions_ne hnil := h.expressions_ne (hnil ▸ hexpressions).eq_nil
  conditions_ne hnil := h.conditions_ne (hnil ▸ hconditions).eq_nil
  expressions entry hentry := by
    have hnames : ∀ name ∈ d.conditions.names, name ∈ other.conditions.names := fun name hname =>
      (hconditions.map Prod.fst).mem_iff.mp hname
    exact (h.expressions entry (hexpressions.mem_iff.mpr hentry)).mono hnames
  conditions entry hentry := h.conditions entry (hconditions.mem_iff.mpr hentry)

/-- The gate accepts exactly the definitions that follow the grammar, in whichever order their
entries stand, and reports the first fault of any other. -/
theorem check_decides_grammar (d : Definition) :
    (d.check = .ok () ↔ d.Grammatical) ∧
      (∀ fault, d.check = .error fault ↔ d.FirstFault fault) ∧
      ∀ other : Definition, d.expressions.entries.Perm other.expressions.entries →
        d.conditions.entries.Perm other.conditions.entries →
        (d.check = .ok () ↔ other.check = .ok ()) := by
  refine ⟨check_eq_ok_iff, fun fault => ⟨firstFault_of_check, check_of_firstFault⟩, ?_⟩
  intro other hexpressions hconditions
  rw [check_eq_ok_iff, check_eq_ok_iff]
  exact ⟨Grammatical.perm hexpressions hconditions,
    Grammatical.perm hexpressions.symm hconditions.symm⟩

/-- Two expressions over two conditions. -/
def twoByTwo : Definition where
  expressions := Dict.ofList
    [("E", .unary .use (.name "A")), ("F", .binary .or (.name "A") (.name "B"))]
  conditions := Dict.ofList
    [("A", ⟨"a", "equals", .scalar (.bool true), false⟩),
      ("B", ⟨"b", "is_one_of", .list [.bool true], false⟩)]

/-- The same with both tables turned round. -/
def twoByTwoReversed : Definition where
  expressions := Dict.ofList
    [("F", .binary .or (.name "A") (.name "B")), ("E", .unary .use (.name "A"))]
  conditions := Dict.ofList
    [("B", ⟨"b", "is_one_of", .list [.bool true], false⟩),
      ("A", ⟨"a", "equals", .scalar (.bool true), false⟩)]

theorem check_decides_grammar_reversed :
    twoByTwo.check = .ok () ∧ twoByTwoReversed.check = .ok () := by
  have hcheck : twoByTwo.check = .ok () := check_of_walks (by decide) (by decide) rfl rfl
  exact ⟨hcheck,
    ((check_decides_grammar twoByTwo).2.2 twoByTwoReversed (.swap ..) (.swap ..)).mp hcheck⟩

end Definition

end FilterBook
