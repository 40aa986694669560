import FilterBook.Proofs.Strays
import Mathlib.Data.List.Forall2
import Mathlib.Logic.Relation

/-!
A `use` node stands for what it holds. Any operand of an expression, at whatever place, may be put
into a `use` node, and the whole expression as well: the fragment stays the same and so does the
error, and the gate gives the same verdict. This may be done any number of times, as long as the
expression does not nest too deep.
-/

namespace FilterBook

open Outcome

namespace Slot

/-- A slot with a `use` node that holds what it held before. -/
def inUse (s : Slot) : Slot :=
  .node ExpressionOp.use.name s .empty .empty

/-- One tree becomes another as a single operand of it is put into a `use` node. The operand may be
at any place, also where evaluation never looks. -/
inductive Wraps : Slot → Slot → Prop
  | here {s : Slot} (hs : s ≠ .empty) : Wraps s s.inUse
  | condition {op : String} {condition condition' left right : Slot}
      (h : Wraps condition condition') :
      Wraps (.node op condition left right) (.node op condition' left right)
  | left {op : String} {condition left left' right : Slot} (h : Wraps left left') :
      Wraps (.node op condition left right) (.node op condition left' right)
  | right {op : String} {condition left right right' : Slot} (h : Wraps right right') :
      Wraps (.node op condition left right) (.node op condition left right')

end Slot

/-- One expression becomes another as operands of it are put into `use` nodes, one after the other;
the expression itself counts as an operand. -/
def Expression.Wraps (e e' : Expression) : Prop :=
  Relation.ReflTransGen Slot.Wraps e.toSlot e'.toSlot

/-- The expressions of one definition become those of another, each under its own name. -/
structure Definition.Wraps (d d' : Definition) : Prop where
  conditions : d'.conditions = d.conditions
  expressions : List.Forall₂ (fun entry entry' => entry'.1 = entry.1 ∧ entry.2.Wraps entry'.2)
    d.expressions.entries d'.expressions.entries

namespace Slot

variable {conditions : Dict Condition} {s t : Slot}

namespace Wraps

theorem ne_empty (h : s.Wraps t) : s ≠ .empty := by
  cases h with
  | here hs => exact hs
  | condition _ => exact nofun
  | left _ => exact nofun
  | right _ => exact nofun

theorem wrapped_ne_empty (h : s.Wraps t) : t ≠ .empty := by
  cases h <;> exact nofun

theorem depth_le (h : s.Wraps t) : s.depth ≤ t.depth := by
  induction h with
  | here _ =>
      simp only [inUse, depth]
      omega
  | condition _ ih | left _ ih | right _ ih =>
      simp only [depth]
      omega

end Wraps

/-- What is asked for and is there may as well not be asked for. -/
theorem require_bind {β : Type} (hs : s ≠ .empty) (op : ExpressionOp) (name : SlotName)
    (next : Except Error β) : (s.require op name >>= fun _ => next) = next := by
  obtain ⟨operand, hoperand⟩ := exists_require hs op name
  rw [hoperand]
  rfl

/-- The level at which a tree stands makes no difference to its fragment, nor to its error, as long
as no node of the tree is too deep. -/
theorem fragment_shift {depth other : Nat} (h : s.depth + depth ≤ greatestDepth + 1)
    (h' : s.depth + other ≤ greatestDepth + 1) :
    s.fragment conditions depth = s.fragment conditions other := by
  induction s generalizing depth other with
  | empty => rfl
  | name named => rfl
  | node opName condition left right ihcondition ihleft ihright =>
      rw [Slot.depth] at h h'
      have hdepth : ¬ depth > greatestDepth := by omega
      have hother : ¬ other > greatestDepth := by omega
      rw [fragment, fragment, if_neg hdepth, if_neg hother,
        @ihcondition (depth + 1) (other + 1) (by omega) (by omega),
        @ihleft (depth + 1) (other + 1) (by omega) (by omega),
        @ihright (depth + 1) (other + 1) (by omega) (by omega)]

/-- A `use` node hands on the fragment of its operand, or the operand's error. -/
theorem fragment_inUse (hs : s ≠ .empty) {depth : Nat}
    (h : s.inUse.depth + depth ≤ greatestDepth + 1) :
    s.inUse.fragment conditions depth = s.fragment conditions depth := by
  simp only [inUse, Slot.depth] at h
  calc s.inUse.fragment conditions depth
      = s.fragment conditions (depth + 1) >>= fun operand =>
          pure (ExpressionOp.use.around operand) :=
        fragment_of_not_isBinary rfl (by omega) hs
    _ = s.fragment conditions (depth + 1) := bind_pure _
    _ = s.fragment conditions depth := fragment_shift (by omega) (by omega)

/-- One operand more in a `use` node leaves the outcome of evaluation as it is. -/
theorem Wraps.fragment_eq (h : s.Wraps t) {depth : Nat}
    (hdepth : t.depth + depth ≤ greatestDepth + 1) :
    t.fragment conditions depth = s.fragment conditions depth := by
  induction h generalizing depth with
  | here hs => exact fragment_inUse hs hdepth
  | condition h ih | left h ih | right h ih =>
      rw [Slot.depth] at hdepth
      simp only [fragment, require_bind h.ne_empty, require_bind h.wrapped_ne_empty,
        @ih (depth + 1) (by omega)]

theorem derivable_inUse_iff : s.inUse.Derivable conditions ↔ s.Derivable conditions := by
  constructor
  · intro h
    cases h with
    | binary hop => exact absurd hop (by decide)
    | unary _ hcondition => exact hcondition
  · exact fun h => .unary (by decide) h

/-- The grammar derives both trees or neither: the slot was filled before, and is filled now. -/
theorem Wraps.derivable_iff (h : s.Wraps t) : t.Derivable conditions ↔ s.Derivable conditions := by
  induction h with
  | here _ => exact derivable_inUse_iff
  | condition h ih =>
      constructor
      · intro hderivable
        cases hderivable with
        | binary => exact absurd rfl h.wrapped_ne_empty
        | unary hop hcondition => exact .unary hop (ih.mp hcondition)
      · intro hderivable
        cases hderivable with
        | binary => exact absurd rfl h.ne_empty
        | unary hop hcondition => exact .unary hop (ih.mpr hcondition)
  | left h ih =>
      constructor
      · intro hderivable
        cases hderivable with
        | binary hop hleft hright => exact .binary hop (ih.mp hleft) hright
        | unary => exact absurd rfl h.wrapped_ne_empty
      · intro hderivable
        cases hderivable with
        | binary hop hleft hright => exact .binary hop (ih.mpr hleft) hright
        | unary => exact absurd rfl h.ne_empty
  | right h ih =>
      constructor
      · intro hderivable
        cases hderivable with
        | binary hop hleft hright => exact .binary hop hleft (ih.mp hright)
        | unary => exact absurd rfl h.wrapped_ne_empty
      · intro hderivable
        cases hderivable with
        | binary hop hleft hright => exact .binary hop hleft (ih.mpr hright)
        | unary => exact absurd rfl h.ne_empty

section Runs

variable (h : Relation.ReflTransGen Wraps s t)

include h

/-- Of a run of steps each one nests no deeper than the last. -/
theorem depth_le_of_wraps : s.depth ≤ t.depth := by
  induction h with
  | refl => exact Nat.le_refl _
  | tail _ hstep ih => exact Nat.le_trans ih hstep.depth_le

theorem fragment_eq_of_wraps {depth : Nat} (hdepth : t.depth + depth ≤ greatestDepth + 1) :
    t.fragment conditions depth = s.fragment conditions depth := by
  induction h with
  | refl => rfl
  | tail _ hstep ih =>
      have hbefore := hstep.depth_le
      rw [hstep.fragment_eq hdepth, ih (by omega)]

theorem derivable_iff_of_wraps : t.Derivable conditions ↔ s.Derivable conditions := by
  induction h with
  | refl => exact Iff.rfl
  | tail _ hstep ih => exact hstep.derivable_iff.trans ih

end Runs

end Slot

namespace Expression.Wraps

variable {e e' : Expression} {conditions : Dict Condition}

theorem evaluate_eq (h : e.Wraps e') (hdepth : e'.depth ≤ greatestDepth) :
    e'.evaluate conditions = e.evaluate conditions := by
  rw [evaluate_eq_fragment, evaluate_eq_fragment]
  exact Slot.fragment_eq_of_wraps h (Nat.succ_le_succ hdepth)

theorem grammatical_iff (h : e.Wraps e') (hdepth : e'.depth ≤ greatestDepth) :
    e'.Grammatical conditions ↔ e.Grammatical conditions := by
  have hderivable : e'.toSlot.Derivable conditions ↔ e.toSlot.Derivable conditions :=
    Slot.derivable_iff_of_wraps h
  have hbefore : e.depth ≤ e'.depth := Slot.depth_le_of_wraps h
  constructor
  · rintro ⟨hd, -⟩
    exact ⟨hderivable.mp hd, Nat.le_trans hbefore hdepth⟩
  · rintro ⟨hd, -⟩
    exact ⟨hderivable.mpr hd, hdepth⟩

theorem check_iff (h : e.Wraps e') (hdepth : e'.depth ≤ greatestDepth) (entry : String) :
    e'.check entry conditions = .ok () ↔ e.check entry conditions = .ok () := by
  rw [check_eq_ok_iff, check_eq_ok_iff, h.grammatical_iff hdepth]

end Expression.Wraps

section Entries

variable {entries entries' : List (String × Expression)} {conditions : Dict Condition}
  (h : List.Forall₂ (fun entry entry' => entry'.1 = entry.1 ∧ entry.2.Wraps entry'.2)
    entries entries')
  (hdepth : ∀ entry ∈ entries', entry.2.depth ≤ greatestDepth)

include h hdepth

theorem mergeFragments_of_wraps (query : Query) :
    mergeFragments conditions query entries' = mergeFragments conditions query entries := by
  induction h generalizing query with
  | nil => rfl
  | cons hentry _ ih =>
      rw [List.forall_mem_cons] at hdepth
      rw [mergeFragments, mergeFragments, hentry.2.evaluate_eq hdepth.1]
      simp only [ih hdepth.2]

theorem forall_grammatical_iff_of_wraps :
    (∀ entry ∈ entries', entry.2.Grammatical conditions) ↔
      ∀ entry ∈ entries, entry.2.Grammatical conditions := by
  induction h with
  | nil => simp
  | cons hentry _ ih =>
      rw [List.forall_mem_cons] at hdepth
      rw [List.forall_mem_cons, List.forall_mem_cons, ih hdepth.2,
        hentry.2.grammatical_iff hdepth.1]

end Entries

namespace Definition.Wraps

variable {d d' : Definition} (h : d.Wraps d')
  (hdepth : ∀ entry ∈ d'.expressions.entries, entry.2.depth ≤ greatestDepth)

include h hdepth

theorem buildUnchecked_eq : d'.buildUnchecked = d.buildUnchecked := by
  rw [buildUnchecked, buildUnchecked, h.conditions]
  exact mergeFragments_of_wraps h.expressions hdepth .empty

theorem check_iff : d'.check = .ok () ↔ d.check = .ok () := by
  have hempty : d'.expressions.entries = [] ↔ d.expressions.entries = [] := by
    rw [← List.length_eq_zero_iff, ← List.length_eq_zero_iff, h.expressions.length_eq]
  have hexpressions : (∀ entry ∈ d'.expressions.entries, entry.2.Grammatical d.conditions) ↔
      ∀ entry ∈ d.expressions.entries, entry.2.Grammatical d.conditions :=
    forall_grammatical_iff_of_wraps h.expressions hdepth
  rw [check_eq_ok_iff, check_eq_ok_iff]
  constructor
  · rintro ⟨hne, hneConditions, hall, hallConditions⟩
    rw [h.conditions] at hneConditions hall hallConditions
    exact ⟨fun hnil => hne (hempty.mpr hnil), hneConditions, hexpressions.mp hall, hallConditions⟩
  · rintro ⟨hne, hneConditions, hall, hallConditions⟩
    rw [← h.conditions] at hneConditions hallConditions
    refine ⟨fun hnil => hne (hempty.mp hnil), hneConditions, ?_, hallConditions⟩
    rw [h.conditions]
    exact hexpressions.mpr hall

theorem build_eq_ok_iff (query : Query) : d'.build = .ok query ↔ d.build = .ok query := by
  have hcheck := h.check_iff hdepth
  rw [build, build, bind_eq_ok_iff, bind_eq_ok_iff, h.buildUnchecked_eq hdepth]
  constructor
  · rintro ⟨_, hok, hquery⟩
    exact ⟨_, hcheck.mp hok, hquery⟩
  · rintro ⟨_, hok, hquery⟩
    exact ⟨_, hcheck.mpr hok, hquery⟩

theorem compile_eq : d'.compile = d.compile := by
  have hbuild := h.build_eq_ok_iff hdepth
  unfold compile
  cases hd : d.build with
  | ok query => rw [(hbuild query).mpr hd]
  | error fault =>
      cases hd' : d'.build with
      | ok query => cases hd.symm.trans ((hbuild query).mp hd')
      | error fault' => rfl

end Definition.Wraps

/-- However many operands are put into `use` nodes, and wherever they stand: as long as no tree
nests too deep, evaluation has the same outcome and the gate the same verdict, for a single
expression and for all the expressions of a definition. -/
theorem use_transparent :
    (∀ {e e' : Expression}, e.Wraps e' → e'.depth ≤ greatestDepth →
      ∀ conditions : Dict Condition, e'.evaluate conditions = e.evaluate conditions ∧
        ∀ entry, e'.check entry conditions = .ok () ↔ e.check entry conditions = .ok ()) ∧
    ∀ {d d' : Definition}, d.Wraps d' →
      (∀ entry ∈ d'.expressions.entries, entry.2.depth ≤ greatestDepth) →
      d'.buildUnchecked = d.buildUnchecked ∧ (d'.check = .ok () ↔ d.check = .ok ()) ∧
        (∀ query, d'.build = .ok query ↔ d.build = .ok query) ∧ d'.compile = d.compile := by
  refine ⟨fun h hdepth conditions => ⟨h.evaluate_eq hdepth, h.check_iff hdepth⟩, fun h hdepth => ?_⟩
  exact ⟨h.buildUnchecked_eq hdepth, h.check_iff hdepth, h.build_eq_ok_iff hdepth,
    h.compile_eq hdepth⟩

namespace Expression

/-- An expression with strays, after the whole of it, two of its names and one name in a stray have
been put into `use` nodes, one of the names twice. -/
def withStraysInUse : Expression :=
  .unary .use (.node (.binary .or (.node (.unary .use (.name "A")))
    (.node ⟨"not", ((Slot.name "A").inUse).inUse, .node "and" ((Slot.name "B").inUse) .empty .empty,
      .empty⟩)))

theorem withStrays_wraps : withStrays.Wraps withStraysInUse :=
  (((((Relation.ReflTransGen.single (.here (by decide))).tail
    (.condition (.left (.here (by decide))))).tail
    (.condition (.right (.condition (.here (by decide)))))).tail
    (.condition (.right (.condition (.here (by decide)))))).tail
    (.condition (.right (.left (.condition (.here (by decide)))))))

/-- The strays are refused as before, and compiled as before where nothing is refused. -/
theorem use_transparent_withStrays :
    withStrays.Wraps withStraysInUse ∧ withStraysInUse.depth ≤ greatestDepth ∧
      withStraysInUse.evaluate oneCondition =
        .ok (Dict.singleton "$or" (.array [.object [("a", .bool true)],
          .object [("$not", .object [("a", .bool true)])]])) ∧
      Definition.Wraps ⟨Dict.singleton "E" withStrays, oneCondition⟩
        ⟨Dict.singleton "E" withStraysInUse, oneCondition⟩ ∧
      (⟨Dict.singleton "E" withStraysInUse, oneCondition⟩ : Definition).buildUnchecked =
        .ok (Dict.singleton "$or" (.array [.object [("a", .bool true)],
          .object [("$not", .object [("a", .bool true)])]])) ∧
      (⟨Dict.singleton "E" withStraysInUse, oneCondition⟩ : Definition).compile = .error {} := by
  have hdepth : withStraysInUse.depth ≤ greatestDepth := by decide
  have hwraps : Definition.Wraps ⟨Dict.singleton "E" withStrays, oneCondition⟩
      ⟨Dict.singleton "E" withStraysInUse, oneCondition⟩ :=
    ⟨rfl, .cons ⟨rfl, withStrays_wraps⟩ .nil⟩
  have hall := use_transparent.2 hwraps (List.forall_mem_singleton.mpr hdepth)
  have hentries : (Dict.singleton "E" withStrays).entries = [("E", withStrays)] := rfl
  refine ⟨withStrays_wraps, hdepth, ?_, hwraps, ?_, ?_⟩
  · rw [(use_transparent.1 withStrays_wraps hdepth oneCondition).1, evaluate_eq_fragment]
    rfl
  · rw [hall.1, Definition.buildUnchecked, compileExpressions, hentries]
    simp only [mergeFragments, evaluate_eq_fragment]
    rfl
  · rw [hall.2.2.2]
    have hrefused : (⟨Dict.singleton "E" withStrays, oneCondition⟩ : Definition).check =
        .error (.schemaViolation ⟨"expressions.E", [.right], some (.slot .left)⟩
          (.notAllowed .not)) := by
      rw [Definition.check_of_ne (by decide) (by decide)]
      simp only [Expression.check_eq_check]
      rfl
    rw [Definition.compile, Definition.build_of_check_error hrefused]

end Expression

end FilterBook
