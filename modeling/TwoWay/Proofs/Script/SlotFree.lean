import TwoWay.Proofs.Forward.SlotFree
import TwoWay.Script.Library

/-!
Scripts make no slots. What a script works out, it works out from its constants, the answers
that it has kept and the values that scripts share. When no constant has a slot in it, then a
script that runs over a text holds no slot at any time, and it shares none.
-/

namespace TwoWay.Script

section Constants

def Expr.constants : Expr → List Value
  | .const v => [v]
  | .var _ | .global _ | .group _ _ | .groupNamed _ _ | .matchText _ | .matchStart _ | .kind _
  | .isEmptyLiteral _ => []
  | .get e _ | .length e | .readNumber e | .not e | .isNil e | .isSlot e | .display e
  | .typeName e => e.constants
  | .push a b | .arithmetic _ a b | .less a b | .equal a b | .and a b | .or a b =>
      a.constants ++ b.constants
  | .record fields => ofFields fields
  | .list es | .concat es => ofAll es
where
  ofAll : List Expr → List Value
    | [] => []
    | e :: rest => e.constants ++ ofAll rest
  ofFields : List (String × Expr) → List Value
    | [] => []
    | (_, e) :: rest => e.constants ++ ofFields rest

def Statement.constants : Statement → List Value
  | .ask _ _ | .inline _ _ | .halt _ => []
  | .assign _ e | .assignGlobal _ e | .breakIf e | .finish e | .reject e => e.constants
  | .branch condition yes no => condition.constants ++ (ofBlock yes ++ ofBlock no)
  | .loop body => ofBlock body
  | .attempt body _ => ofBlock body
where
  ofBlock : List Statement → List Value
    | [] => []
    | s :: rest => s.constants ++ ofBlock rest

def Definition.constants : Definition → List Value
  | .script statements => Statement.constants.ofBlock statements
  | .has _ | .optional _ | .sequence _ | .mustEnd | .hasMore | .isEnd => []

def Library.SlotFree (lib : Library) : Prop :=
  ∀ entry ∈ lib.definitions, ∀ v ∈ entry.2.constants, v.SlotFree

end Constants

section Expressions

def Env.SlotFree (env : Env) : Prop := ∀ entry ∈ env, entry.2.SlotFree

def Globals.SlotFree (globals : Globals) : Prop := ∀ entry ∈ globals, entry.2.SlotFree

/-- Whether a computation that may turn its operand down has only results that are `made`
so. -/
def Yields {α : Type} (made : α → Prop) (x : Except String α) : Prop := ∀ a, x = .ok a → made a

theorem yields_ok {α : Type} {made : α → Prop} {a : α} (h : made a) : Yields made (.ok a) :=
  fun _ heq => Except.ok.inj heq ▸ h

theorem Yields.bind {α β : Type} {made : α → Prop} {made' : β → Prop} {x : Except String α}
    {f : α → Except String β} (h : Yields made x) (hf : ∀ a, made a → Yields made' (f a)) :
    Yields made' (x >>= f) := by
  cases x with
  | ok a => exact hf a (h a rfl)
  | error message => exact fun _ heq => (by cases heq)

theorem yields_bind {α β : Type} {made : β → Prop} {x : Except String α}
    {f : α → Except String β} (hf : ∀ a, Yields made (f a)) : Yields made (x >>= f) :=
  Yields.bind (fun _ _ => trivial) fun a (_ : True) => hf a

variable {env : Env} {globals : Globals}

theorem slotFree_ofText? (text : Option String) : (ofText? text).SlotFree := by
  cases text with
  | none => exact Value.slotFree_nil
  | some s => exact Value.slotFree_string s

theorem slotFree_parseNumber (text : String) : Yields Value.SlotFree (parseNumber text) := by
  unfold parseNumber
  intro v hv
  simp only at hv
  split at hv
  · exact Except.ok.inj hv ▸ Value.slotFree_number _
  · cases hv

theorem Env.SlotFree.value (henv : env.SlotFree) (name : String) :
    ((env.lookup name).elim .nil Answer.value).SlotFree := by
  cases hlookup : env.lookup name with
  | none => exact Value.slotFree_nil
  | some found => exact henv _ (Bindings.mem_of_lookup hlookup)

theorem Globals.SlotFree.value (hglobals : globals.SlotFree) (name : String) :
    ((globals.lookup name).getD .nil).SlotFree := by
  cases hlookup : globals.lookup name with
  | none => exact Value.slotFree_nil
  | some v => exact hglobals _ (Bindings.mem_of_lookup hlookup)

mutual

theorem Expr.slotFree_eval (henv : env.SlotFree) (hglobals : globals.SlotFree) :
    ∀ e : Expr, (∀ v ∈ e.constants, v.SlotFree) → Yields Value.SlotFree (e.eval env globals)
  | .const v, h => yields_ok (h v (List.mem_singleton.2 rfl))
  | .var name, _ => yields_ok (henv.value name)
  | .global name, _ => yields_ok (hglobals.value name)
  | .group _ _, _ => yields_ok (slotFree_ofText? _)
  | .groupNamed _ _, _ => yields_ok (slotFree_ofText? _)
  | .matchText _, _ => yields_ok (slotFree_ofText? _)
  | .matchStart name, _ => by
      refine yields_ok ?_
      cases env.pattern? name with
      | none => exact Value.slotFree_nil
      | some found => exact Value.slotFree_number _
  | .kind name, _ => by
      refine yields_ok ?_
      split
      · exact Value.slotFree_string _
      · exact Value.slotFree_string _
      · exact Value.slotFree_string _
      · exact Value.slotFree_nil
  | .isEmptyLiteral _, _ => yields_ok (Value.slotFree_bool _)
  | .record fields, h =>
      (slotFree_evalFields henv hglobals fields h).bind fun _ hvalues =>
        yields_ok (Value.slotFree_record hvalues)
  | .list items, h =>
      (slotFree_evalAll henv hglobals items h).bind fun _ hvalues =>
        yields_ok (Value.slotFree_list.2 hvalues)
  | .push l item, h => by
      obtain ⟨hl, hitem⟩ := List.forall_mem_append.1 h
      refine (l.slotFree_eval henv hglobals hl).bind fun items hitems => ?_
      refine (item.slotFree_eval henv hglobals hitem).bind fun v hv => yields_ok ?_
      refine Value.slotFree_list.2 (List.forall_mem_append.2 ⟨hitems.items, ?_⟩)
      simpa using hv
  | .get m key, h => by
      refine (m.slotFree_eval henv hglobals h).bind fun v hv => yields_ok ?_
      cases hget : v.get? key with
      | none => exact Value.slotFree_nil
      | some w => exact hv.get? hget
  | .length _, _ => yields_bind fun _ => yields_ok (Value.slotFree_number _)
  | .readNumber _, _ => yields_bind fun v => slotFree_parseNumber v.text
  | .arithmetic _ _ _, _ =>
      yields_bind fun _ => yields_bind fun _ => yields_ok (Value.slotFree_number _)
  | .less _ _, _ | .equal _ _, _ | .and _ _, _ | .or _ _, _ =>
      yields_bind fun _ => yields_bind fun _ => yields_ok (Value.slotFree_bool _)
  | .not _, _ | .isNil _, _ | .isSlot _, _ => yields_bind fun _ => yields_ok (Value.slotFree_bool _)
  | .display _, _ | .typeName _, _ => yields_bind fun _ => yields_ok (Value.slotFree_string _)
  | .concat _, _ => yields_bind fun _ => yields_ok (Value.slotFree_string _)

theorem slotFree_evalAll (henv : env.SlotFree) (hglobals : globals.SlotFree) :
    ∀ es : List Expr, (∀ v ∈ Expr.constants.ofAll es, v.SlotFree) →
      Yields (fun values => ∀ v ∈ values, v.SlotFree) (Expr.eval.evalAll env globals es)
  | [], _ => yields_ok (by simp)
  | e :: rest, h => by
      obtain ⟨he, hrest⟩ := List.forall_mem_append.1 h
      refine (e.slotFree_eval henv hglobals he).bind fun v hv => ?_
      refine (slotFree_evalAll henv hglobals rest hrest).bind fun values hvalues => ?_
      exact yields_ok (List.forall_mem_cons.2 ⟨hv, hvalues⟩)

theorem slotFree_evalFields (henv : env.SlotFree) (hglobals : globals.SlotFree) :
    ∀ fields : List (String × Expr), (∀ v ∈ Expr.constants.ofFields fields, v.SlotFree) →
      Yields (fun values => ∀ b ∈ values, b.2.SlotFree) (Expr.eval.evalFields env globals fields)
  | [], _ => yields_ok (by simp)
  | (key, e) :: rest, h => by
      obtain ⟨he, hrest⟩ := List.forall_mem_append.1 h
      refine (e.slotFree_eval henv hglobals he).bind fun v hv => ?_
      refine (slotFree_evalFields henv hglobals rest hrest).bind fun values hvalues => ?_
      exact yields_ok (List.forall_mem_cons.2 ⟨hv, hvalues⟩)

end

end Expressions

section Statements

def Flow.SlotFree : Flow → Prop
  | .finished v => v.SlotFree
  | .next | .broken | .halted _ => True

def EndsSlotFree (ended : Flow × Env) : Prop := ended.1.SlotFree ∧ ended.2.SlotFree

structure Memory.SlotFree (memory : Memory) : Prop where
  globals : memory.globals.SlotFree
  notes : ∀ note ∈ memory.notes, note.reply.SlotFree

theorem Memory.slotFree_start : Memory.start.SlotFree :=
  ⟨by simp [Memory.start, Globals.SlotFree], by simp [Memory.start]⟩

theorem Env.SlotFree.cons {env : Env} {found : Answer} (henv : env.SlotFree)
    (hfound : found.SlotFree) (name : String) : Env.SlotFree ((name, found) :: env) :=
  List.forall_mem_cons.2 ⟨hfound, henv⟩

theorem Env.SlotFree.keep {env : Env} {found : Answer} (henv : env.SlotFree)
    (hfound : found.SlotFree) (name : Option String) : (keep name found env).SlotFree := by
  cases name with
  | none => exact henv
  | some name => exact henv.cons hfound name

theorem slotFree_perform (request : Ask) (shared : Memory → Prop) :
    request.perform.Makes Reply.SlotFree shared Reply.SlotFree := by
  cases request with
  | node n => exact Body.makes_ask n
  | literal text =>
      refine (Body.makes_literal text).bind fun reply _ => ?_
      cases reply with
      | ok found => exact Reply.slotFree_ok.2 (Value.slotFree_string found)
      | error halt => exact Reply.slotFree_error halt
  | pattern p =>
      refine (Body.makes_pattern p).bind fun reply hreply => ?_
      cases reply with
      | ok found => exact Reply.slotFree_ok.2 (hreply found rfl)
      | error halt => exact Reply.slotFree_error halt
  | rule r =>
      refine (Body.makes_rule r).bind fun reply hreply => ?_
      cases reply with
      | ok v => exact Reply.slotFree_ok.2 (Outcome.slotFree_ok.1 hreply)
      | error halt => exact Reply.slotFree_error halt
  | oneOf nodes => exact Body.makes_ask _

theorem slotFree_noted (owner : String) (request : Ask) :
    (noted owner request).Makes Reply.SlotFree Memory.SlotFree Reply.SlotFree := by
  refine (slotFree_perform request _).bind fun reply hreply memory hmemory => ?_
  exact ⟨⟨hmemory.globals, List.forall_mem_cons.2 ⟨hreply, hmemory.notes⟩⟩, hreply⟩

theorem slotFree_withValue {e : Expr} {env : Env} {next : Value → Body Memory (Flow × Env)}
    (he : ∀ v ∈ e.constants, v.SlotFree) (henv : env.SlotFree)
    (hnext : ∀ v : Value, v.SlotFree → (next v).Makes Reply.SlotFree Memory.SlotFree EndsSlotFree) :
    (withValue e env next).Makes Reply.SlotFree Memory.SlotFree EndsSlotFree := by
  intro memory hmemory
  have hvalue := e.slotFree_eval henv hmemory.globals he
  cases heval : e.eval env memory.globals with
  | ok v =>
      simp only [heval]
      exact hnext v (hvalue v heval)
  | error message =>
      simp only [heval]
      exact ⟨trivial, henv⟩

variable {inline : Rule → Body Memory Outcome}
  (hinline : ∀ r, (inline r).SlotFree Memory.SlotFree) (owner : String)

include hinline

/-- By induction on the fuel, for a block and for one statement: each statement is given only
what the ones before it kept and shared. -/
theorem slotFree_block_and_statement (fuel : Nat) :
    (∀ statements env, (∀ v ∈ Statement.constants.ofBlock statements, v.SlotFree) →
      Env.SlotFree env → (runBlock inline owner fuel statements env).Makes Reply.SlotFree
        Memory.SlotFree EndsSlotFree) ∧
    ∀ (s : Statement) env, (∀ v ∈ s.constants, v.SlotFree) → Env.SlotFree env →
      (runStatement inline owner fuel s env).Makes Reply.SlotFree Memory.SlotFree
        EndsSlotFree := by
  induction fuel with
  | zero => exact ⟨fun _ _ _ _ => trivial, fun _ _ _ _ => trivial⟩
  | succ fuel ih =>
      obtain ⟨hblock, hstatement⟩ := ih
      constructor
      · intro statements env hstatements henv
        cases statements with
        | nil => exact ⟨trivial, henv⟩
        | cons s rest =>
            obtain ⟨hs, hrest⟩ := List.forall_mem_append.1 hstatements
            refine (hstatement s env hs henv).bind ?_
            rintro ⟨flow, env'⟩ hended
            cases flow with
            | next => exact hblock rest env' hrest hended.2
            | broken | finished _ | halted _ => exact hended
      · intro s env hs henv
        cases s with
        | ask request name =>
            refine (slotFree_noted owner request).bind fun reply hreply => ?_
            cases reply with
            | ok found => exact ⟨trivial, henv.keep (Reply.slotFree_ok.1 hreply) name⟩
            | error halt => exact ⟨trivial, henv⟩
        | inline r name =>
            refine (hinline r).bind fun outcome houtcome => ?_
            cases outcome with
            | ok v =>
                have hv : v.SlotFree := Outcome.slotFree_ok.1 houtcome
                exact ⟨trivial, henv.keep (Answer.slotFree_rule.2 hv) name⟩
            | error halt => exact ⟨trivial, henv⟩
        | assign name e =>
            exact slotFree_withValue hs henv fun v hv =>
              ⟨trivial, henv.cons (Answer.slotFree_rule.2 hv) name⟩
        | assignGlobal name e =>
            refine slotFree_withValue hs henv fun v hv memory hmemory => ?_
            exact ⟨⟨List.forall_mem_cons.2 ⟨hv, hmemory.globals⟩, hmemory.notes⟩, trivial, henv⟩
        | branch condition yes no =>
            obtain ⟨hcondition, hbranches⟩ := List.forall_mem_append.1 hs
            obtain ⟨hyes, hno⟩ := List.forall_mem_append.1 hbranches
            refine slotFree_withValue hcondition henv fun v _ => ?_
            split
            · exact hblock yes env hyes henv
            · exact hblock no env hno henv
        | loop body =>
            refine (hblock body env hs henv).bind ?_
            rintro ⟨flow, env'⟩ hended
            cases flow with
            | next => exact hstatement (.loop body) env' hs hended.2
            | broken | finished _ | halted _ => exact hended
        | breakIf condition =>
            refine slotFree_withValue hs henv fun v _ => ⟨?_, henv⟩
            split <;> trivial
        | finish e => exact slotFree_withValue hs henv fun v hv => ⟨hv, henv⟩
        | reject e => exact slotFree_withValue hs henv fun v _ => ⟨trivial, henv⟩
        | attempt body name =>
            refine (hblock body env hs henv).bind ?_
            rintro ⟨flow, env'⟩ ⟨hflow, henv'⟩
            cases flow with
            | halted halt =>
                exact ⟨trivial, henv'.keep (Answer.slotFree_rule.2 (Value.slotFree_string _)) name⟩
            | next | broken | finished _ =>
                exact ⟨hflow, henv'.keep (Answer.slotFree_rule.2 Value.slotFree_nil) name⟩
        | halt h => exact ⟨trivial, henv⟩

theorem slotFree_body (fuel : Nat) (statements : List Statement)
    (hstatements : ∀ v ∈ Statement.constants.ofBlock statements, v.SlotFree) :
    (body inline owner fuel statements).SlotFree Memory.SlotFree := by
  have hblock := (slotFree_block_and_statement hinline owner fuel).1 statements [] hstatements
    (by simp [Env.SlotFree])
  refine hblock.bind ?_
  rintro ⟨flow, env⟩ ⟨hflow, _⟩
  cases flow with
  | finished v => exact Outcome.slotFree_ok.2 hflow
  | halted halt => exact Outcome.slotFree_error halt
  | next | broken => exact Outcome.slotFree_ok.2 Value.slotFree_nil

end Statements

theorem Library.slotFree_body {lib : Library} (hlib : lib.SlotFree) (fuel id : Nat) :
    (lib.body fuel id).SlotFree Memory.SlotFree :=
  Library.body_induction trivial
    (fun hinline _ _ hmem fuel => Script.slotFree_body hinline _ fuel _ (hlib _ hmem))
    Standard.slotFree_has Standard.slotFree_optional Standard.slotFree_sequence
    Standard.slotFree_mustEnd Standard.slotFree_hasMore Standard.slotFree_isEnd fuel id

/-- A run over a text makes no slot, when the bodies make none of replies without slots and of
a memory in which there is none. All scripts whose constants have no slot are such bodies:
what their expressions come to, what they keep under names and what they share has no slot. -/
theorem runs_make_no_slots :
    (∀ {M : Type} {shared : M → Prop} {grammar : Grammar M},
      (∀ id, (grammar id).SlotFree shared) → ∀ depth r input memory, shared memory →
        Forward.RunsSlotFree shared grammar depth r input memory) ∧
    ∀ {lib : Library}, lib.SlotFree → ∀ fuel,
      (∀ depth r input, Forward.RunsSlotFree Memory.SlotFree (lib.grammar fuel) depth r input
        Memory.start) ∧
      (∀ owner steps statements env, (∀ v ∈ Statement.constants.ofBlock statements, v.SlotFree) →
        Env.SlotFree env →
        (runBlock (fun r => lib.body fuel r.id) owner steps statements env).Makes Reply.SlotFree
          Memory.SlotFree EndsSlotFree) ∧
      ∀ (e : Expr) env globals v, (∀ v ∈ e.constants, v.SlotFree) → Env.SlotFree env →
        Globals.SlotFree globals → e.eval env globals = .ok v → v.SlotFree := by
  refine ⟨?_, ?_⟩
  · intro M shared grammar hmakes depth r input memory hmemory
    exact Forward.runsSlotFree hmakes depth r input hmemory
  · intro lib hlib fuel
    have hbodies := lib.slotFree_body hlib fuel
    refine ⟨fun depth r input => ?_, fun owner steps => ?_, ?_⟩
    · exact Forward.runsSlotFree hbodies depth r input Memory.slotFree_start
    · exact (slotFree_block_and_statement (fun r => hbodies r.id) owner steps).1
    · exact fun e _ _ v he henv hglobals heval => e.slotFree_eval henv hglobals he v heval

/-- A letter that is shared, kept in a list and handed up in a record. -/
theorem runs_make_no_slots_letter :
    let letter : Rule := ⟨3, "letter"⟩
    let lib : Library := Library.start.define letter <| .script [
      .ask (.literal "a") (some "x"),
      .assignGlobal "seen" (.list [.var "x", .const .nil]),
      .finish (.record [("letter", .var "x"), ("seen", .global "seen")])]
    let value : Value := .map
      [("letter", .string "a"), ("seen", .list [.string "a", .nil])]
    let memory : Memory := ⟨[("seen", .list [.string "a", .nil])],
      [⟨"letter", .literal "a", .ok (.literal "a")⟩]⟩
    lib.SlotFree ∧
      Forward.parse (lib.grammar 9) 2 letter "ab".toList Memory.start =
        some (⟨['b'], .ok value⟩, memory) ∧
      value.SlotFree ∧ memory.SlotFree ∧
      Forward.RunsSlotFree (fun _ => True) (fun _ => Standard.has (.literal "a") : Grammar Unit) 1
        letter "b".toList () := by
  intro letter lib value memory
  have hlib : lib.SlotFree := by
    simp [Library.SlotFree, lib, Library.define, Library.start, Definition.constants,
      Statement.constants.ofBlock, Statement.constants, Expr.constants, Expr.constants.ofAll,
      Expr.constants.ofFields]
  have hparse : Forward.parse (lib.grammar 9) 2 letter "ab".toList Memory.start =
      some (⟨['b'], .ok value⟩, memory) := by rfl
  obtain ⟨hvalue, hmemory⟩ := ((runs_make_no_slots.2 hlib 9).1 2 letter _).result hparse
  refine ⟨hlib, hparse, hvalue value rfl, hmemory, ?_⟩
  exact runs_make_no_slots.1 (fun _ => Standard.slotFree_has _) 1 letter _ () trivial

end TwoWay.Script
