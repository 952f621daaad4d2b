/-
Reading a page sends two statements, or none.

* `ReadSetting.LinksFail`: that following links for a read fails;
* `preparePage`, `sendPage`: the two halves of a read, before and after anything is sent;
* `PageRefusal`: the causes for which a read is refused;
* `ReadsWhole`: that a read sends nothing, or the count and the page of one clause.

Main statement: `fetchPage_readsWhole`, for every request and every connection that counts.

Design notes: the text of the page is turned into a statement after the count has been sent, so a
refusal there would come too late. There is none, since the page is bound wherever the count is.
Where the links to a policy are too many for the stack, a read is refused although nothing is wrong
with its arguments (`fetchPage_selfLink_fails`).
-/
import RowSecurity.Proofs.PageText

namespace RowSecurity

open Audit Text

/-! ### Building a predicate -/

section Building

variable {config : Config} {policy : PolicyValue} {identifiers : Fields} {table : String}
  {offset : Int} {failure : Failure}

theorem commands_interpret : (interpret config policy identifiers table offset).commands = [] := by
  unfold interpret
  split
  · rfl
  · split
    · rfl
    · refine Traced.commands_bind_eq_nil ?_ fun decision => ?_
      · rw [resolve_eq]
        show (((Decision.ofPolicy config policy identifiers).report table).trace.filterMap _) = []
        unfold Decision.report
        split
        · rfl
        · rfl
      · refine Traced.commands_bind_eq_nil rfl fun predicate => ?_
        split
        · rfl
        · rfl

theorem commands_within {α : Type} {computation : Traced α} (none : computation.commands = [])
    (stack : Stack) (call : StepCall) : (stack.within call computation).commands = [] := by
  by_cases fits : stack.Fits call
  · rw [Stack.within_of_fits fits]
    exact none
  · unfold Stack.within
    rw [if_neg fits]
    rw [Traced.commands, List.filterMap_eq_nil_iff] at none ⊢
    exact fun effect member => none effect (List.mem_of_mem_take member)

theorem commands_scopeChild (stack : Stack) (link : ParentLink) (parent : Predicate) :
    (scopeChild stack link table offset parent).commands = [] := by
  unfold scopeChild
  dsimp only
  generalize (if table = "" then link.childTable else table) = childTable
  split
  · rfl
  · split
    · rfl
    · split
      · exact commands_within rfl stack _
      · rfl

/-- Following links sends nothing. -/
theorem commands_scope (setting : ScopeSetting) (hops : Nat) :
    ∀ (stack : Stack) (resource : String) (policy : PolicyValue) (table : String),
      (scope setting hops stack resource policy table).commands = [] := by
  induction hops with
  | zero =>
    intro stack resource policy table
    unfold scope
    refine Traced.commands_bind_eq_nil (commands_within rfl stack _) fun read => ?_
    split
    · split
      · exact commands_within rfl stack _
      · exact commands_within rfl stack _
    · exact commands_within commands_interpret stack _
  | succ hops ih =>
    intro stack resource policy table
    unfold scope
    refine Traced.commands_bind_eq_nil (commands_within rfl stack _) fun read => ?_
    split
    · split
      · exact commands_within rfl stack _
      · rename_i link _
        dsimp only
        refine Traced.commands_bind_eq_nil (commands_within rfl stack _) fun next => ?_
        exact Traced.commands_bind_eq_nil (ih _ _ _ _) fun parent =>
          commands_scopeChild stack link parent
    · exact commands_within commands_interpret stack _

theorem commands_buildPredicate (lookup : Lookup) (links : Option LinkRegistry)
    (context : Option Context) (stack : Stack) :
    (buildPredicate config lookup links context table offset stack).commands = [] := by
  unfold buildPredicate
  split
  · rfl
  · split
    · exact commands_scope _ _ _ _ _ _
    · exact commands_interpret

/-- Row security takes part in the reads of a request with a context, and in no others. -/
theorem applied_of_buildPredicate {lookup : Lookup} {links : Option LinkRegistry}
    {context : Option Context} {stack : Stack} {predicate : Predicate}
    (built : (buildPredicate config lookup links context table offset stack).outcome =
      .ok predicate) : predicate.applied = context.isSome := by
  cases context with
  | none =>
    cases built
    rfl
  | some context =>
    have granted : ∀ {value}, predicate.GrantedBy config context.identifiers offset value →
        predicate.applied = true := by
      intro value granted
      cases granted with
      | all _ => rfl
      | some _ _ _ _ _ => rfl
    rcases buildPredicate_eq_ok built with rfl | direct | ⟨_, _, _, _, _, _, _, _, inherited⟩
    · rfl
    · exact granted direct
    · exact granted inherited

end Building

/-! ### Where a predicate cannot be built -/

namespace ReadSetting

/-- What following the links for a read depends on, after `offset` values that are bound
elsewhere. -/
def scopeSetting (setting : ReadSetting) (links : LinkRegistry) (context : Context)
    (offset : Int) : ScopeSetting :=
  ⟨setting.config, links, setting.lookup, context.role, context.identifiers, offset⟩

/-- That the policy of a read is that of a parent, and that following the links to it fails. So many
calls are nested where they begin. -/
def LinksFail (setting : ReadSetting) (offset : Int) (calls : Nat) (failure : Failure) : Prop :=
  ∃ context links, setting.context = some context ∧ setting.links = some links ∧
    context.policy = .ready .parentDelegated ∧
    ScopeFailure (setting.scopeSetting links context offset) setting.config.maxParentDepth
      (setting.stack.below calls) context.resource context.policy failure

/-- That the stack has room for all the links that are followed for a read. -/
def HasRoom (setting : ReadSetting) (offset : Int) (calls : Nat) : Prop :=
  ∀ context links, setting.context = some context → setting.links = some links →
    context.policy = .ready .parentDelegated →
    (setting.stack.below calls).Suffices (setting.scopeSetting links context offset)
      setting.config.maxParentDepth context.resource context.policy

variable {setting : ReadSetting} {table : String} {offset : Int} {calls : Nat} {failure : Failure}

/-- A predicate cannot be built only where following links fails, or where a number is too long to
write. Between building it and the first link there are three calls. -/
theorem linksFail_of_outcome (start : 0 ≤ offset)
    (h : (buildPredicate setting.config setting.lookup setting.links setting.context table offset
      (setting.stack.below calls)).outcome = .error failure) :
    setting.LinksFail offset (calls + 3) failure ∨
      (failure = .limit .digitsWritten ∧
        maxDigits < (Nat.toDigits 10 (offset + 1).natAbs).length) := by
  cases given : setting.context with
  | none =>
    rw [given] at h
    cases h
  | some context =>
    rw [given] at h
    unfold buildPredicate at h
    dsimp only at h
    split at h
    · rename_i links linked delegates
      have delegated : context.policy = .ready .parentDelegated := by
        simpa [Context.delegates] using delegates
      rw [parentScoped, Stack.below_below, Stack.below_below] at h
      have start' : 0 ≤ (setting.scopeSetting links context offset).offset := start
      exact (ScopeFailure.of_outcome start' h).imp_left fun fails =>
        ⟨context, links, given, linked, delegated, fails⟩
    · exact .inr (interpret_eq_error start h)

/-- Where the stack suffices, it cannot be built just so. -/
theorem LinksFail.outcome_eq (fails : setting.LinksFail offset (calls + 3) failure)
    (room : setting.HasRoom offset (calls + 3)) (table : String) :
    (buildPredicate setting.config setting.lookup setting.links setting.context table offset
      (setting.stack.below calls)).outcome = .error failure := by
  obtain ⟨context, links, given, linked, delegated, fails⟩ := fails
  have delegates : context.delegates = true := by
    rw [Context.delegates, delegated]
    rfl
  unfold buildPredicate
  rw [given, linked]
  dsimp only
  rw [delegates]
  dsimp only
  rw [parentScoped, Stack.below_below, Stack.below_below]
  exact fails.outcome_eq (room context links given linked delegated) table

/-- Where the stack suffices, following links fails only where the policy of a parent cannot be
looked up. -/
theorem LinksFail.exists_unanswered (fails : setting.LinksFail offset calls failure)
    (room : setting.HasRoom offset calls) :
    ∃ role resource, setting.lookup role resource = .error failure := by
  obtain ⟨context, links, given, linked, delegated, fails⟩ := fails
  cases fails with
  | lookup _ _ _ _ unanswered => exact ⟨_, _, unanswered⟩
  | stack leads short full =>
    exact absurd (room context links given linked delegated leads short _) full

end ReadSetting

/-! ### Before anything is sent -/

/-- The first half of a read: its arguments are checked and its clause is composed. -/
def preparePage (setting : ReadSetting) (request : PageRequest) : Traced Composed := do
  require (Text.isTableName request.table) (.tableName request.table)
  require (request.order.all Sql.isOrderList) (.orderList (request.order.getD ""))
  require (0 ≤ request.limit && 0 ≤ request.offset) .negativePage
  let predicate ← setting.predicate request.table request.params.length
  .ofExcept (compose request.base request.params predicate)

/-- The second half of a read: two statements are sent, and their answers make the result. -/
def sendPage (connection : Connection) (request : PageRequest) (composed : Composed) :
    Traced ReadResult := do
  let (counts, connection) ← connection.sendText
    (countSql request.table composed.whereClause) composed.params
  let total ← .ofExcept ((totalOf counts).mapError Failure.count)
  let (page, values) := composed.paginate (.int request.limit) (.int request.offset)
  let (rows, _) ← connection.sendText
    (pageSql request.table composed.whereClause request.order page) values
  return ⟨rows, composed.applied, .int total⟩

theorem fetchPage_eq (setting : ReadSetting) (connection : Connection) (request : PageRequest) :
    fetchPage setting connection request =
      preparePage setting request >>= sendPage connection request := by
  unfold fetchPage preparePage
  simp only [bind_assoc]
  rfl

/-- The causes for which the arguments of a read are refused. -/
inductive PageRefusal (setting : ReadSetting) (request : PageRequest) : Failure → Prop
  | table : isTableName request.table = false →
    PageRefusal setting request (.argument (.tableName request.table))
  | order {order : String} : request.order = some order → Sql.isOrderList order = false →
    PageRefusal setting request (.argument (.orderList order))
  | page : request.limit < 0 ∨ request.offset < 0 →
    PageRefusal setting request (.argument .negativePage)
  /-- the policy is that of a parent, and following the links to it fails -/
  | links {failure : Failure} :
    setting.LinksFail request.params.length 4 failure → PageRefusal setting request failure
  /-- the placeholders of the base are not those of its values -/
  | base {failure : Failure} :
    ¬ Sql.NumberedUpTo request.params.length
      (String.ofList (Sql.stripWhere request.base.toList)) →
    (∃ used, failure = .argument (.basePlaceholders used request.params.length)) ∨
      (∃ digits, failure = .placeholder (.limit (.digitsRead digits))) →
    PageRefusal setting request failure
  /-- a placeholder of the clause stands where it defines no parameter -/
  | undefined {predicate : Predicate} {composed : Composed} {text : String} {number : Nat} :
    (setting.predicate request.table request.params.length).outcome = .ok predicate →
    compose request.base request.params predicate = .ok composed →
    Sql.namePlaceholders composed.params.length composed.whereClause = .ok text →
    1 ≤ number → number ≤ composed.params.length →
    Sql.parameterName number ∉ Sql.definedNames true text.toList →
    PageRefusal setting request (.placeholder (.undefinedName number))

section Halves

variable {setting : ReadSetting} {request : PageRequest} {connection : Connection}
  {composed : Composed} {failure : Failure} {total : Int}

theorem require_of_true {condition : Bool} (h : condition = true) (fault : ArgumentFault) :
    require condition fault = .ok () := if_pos h

theorem require_of_false {condition : Bool} (h : condition = false) (fault : ArgumentFault) :
    require condition fault = .fail (.argument fault) := by
  rw [h]
  rfl

/-- What is known of a request whose clause has been composed. -/
structure Prepared (setting : ReadSetting) (request : PageRequest) (predicate : Predicate)
    (composed : Composed) : Prop where
  table : isTableName request.table = true
  order : request.order.all Sql.isOrderList = true
  built : (setting.predicate request.table request.params.length).outcome = .ok predicate
  made : compose request.base request.params predicate = .ok composed
  numbered : Sql.NumberedUpTo composed.params.length composed.whereClause
  written : composed.params.length + 2 < 10 ^ maxDigits

/-- A clause is composed from a predicate that was built, or the base is refused. -/
theorem composed_cases (written : request.params.length + 3 < 10 ^ maxDigits)
    {predicate : Predicate} (table : isTableName request.table = true)
    (order : request.order.all Sql.isOrderList = true)
    (built : (setting.predicate request.table request.params.length).outcome = .ok predicate) :
    (∃ failure, compose request.base request.params predicate = .error failure ∧
        PageRefusal setting request failure) ∨
      ∃ composed, compose request.base request.params predicate = .ok composed ∧
        Prepared setting request predicate composed := by
  by_cases numbered : Sql.NumberedUpTo request.params.length
      (String.ofList (Sql.stripWhere request.base.toList))
  · obtain ⟨composed, made, inStep, short⟩ :=
      exists_inStep (Int.natCast_nonneg _) built written numbered
    exact .inr ⟨composed, made, table, order, built, made, inStep.numbered, by omega⟩
  · obtain ⟨failure, refused, cause⟩ := compose_of_not_numbered predicate numbered
    exact .inl ⟨failure, refused, .base numbered cause⟩

/-- A predicate that cannot be built is a cause to refuse a read. -/
theorem refusal_of_predicate (written : request.params.length + 3 < 10 ^ maxDigits)
    (fails : (setting.predicate request.table request.params.length).outcome = .error failure) :
    PageRefusal setting request failure := by
  rcases ReadSetting.linksFail_of_outcome (Int.natCast_nonneg _) fails with fails | ⟨-, digits⟩
  · exact .links fails
  · have short : (Nat.toDigits 10 (request.params.length + 1)).length ≤ maxDigits :=
      Sql.length_toDigits_le_maxDigits.mpr (by omega)
    exact absurd digits (Nat.not_lt.mpr short)

/-- A request whose arguments are accepted is prepared by building its predicate. -/
theorem preparePage_of_accepted (table : isTableName request.table = true)
    (order : request.order.all Sql.isOrderList = true)
    (page : (0 ≤ request.limit && 0 ≤ request.offset : Bool) = true) :
    preparePage setting request =
      (setting.predicate request.table request.params.length >>= fun predicate =>
        .ofExcept (compose request.base request.params predicate)) := by
  unfold preparePage
  rw [require_of_true table, Traced.ok_bind, require_of_true order, Traced.ok_bind,
    require_of_true page, Traced.ok_bind]

/-- Preparing a read sends nothing, and either composes its clause or refuses it for a cause. -/
theorem preparePage_cases (setting : ReadSetting)
    (written : request.params.length + 3 < 10 ^ maxDigits) :
    (preparePage setting request).commands = [] ∧
      ((∃ failure, (preparePage setting request).outcome = .error failure ∧
          PageRefusal setting request failure) ∨
        ∃ predicate composed, (preparePage setting request).outcome = .ok composed ∧
          Prepared setting request predicate composed) := by
  unfold preparePage
  cases table : isTableName request.table with
  | false =>
    rw [require_of_false rfl]
    exact ⟨rfl, .inl ⟨_, rfl, .table table⟩⟩
  | true =>
    rw [require_of_true rfl, Traced.ok_bind]
    cases order : request.order.all Sql.isOrderList with
    | false =>
      rw [require_of_false rfl]
      cases given : request.order with
      | none =>
        rw [given] at order
        cases order
      | some columns =>
        rw [given] at order
        exact ⟨rfl, .inl ⟨_, rfl, .order given order⟩⟩
    | true =>
      rw [require_of_true rfl, Traced.ok_bind]
      cases page : (0 ≤ request.limit && 0 ≤ request.offset : Bool) with
      | false =>
        rw [require_of_false rfl]
        simp only [Bool.and_eq_false_iff, decide_eq_false_iff_not, Int.not_le] at page
        exact ⟨rfl, .inl ⟨_, rfl, .page page⟩⟩
      | true =>
        rw [require_of_true rfl, Traced.ok_bind]
        refine ⟨Traced.commands_bind_eq_nil (commands_buildPredicate _ _ _ _) fun _ => rfl, ?_⟩
        cases built : (setting.predicate request.table request.params.length).outcome with
        | error failure =>
          rw [Traced.bind_of_error built]
          exact .inl ⟨failure, rfl, refusal_of_predicate written built⟩
        | ok predicate =>
          rw [Traced.bind_of_ok built]
          rcases composed_cases written table order built with
            ⟨failure, refused, cause⟩ | ⟨composed, made, prepared⟩
          · exact .inl ⟨failure, refused, cause⟩
          · exact .inr ⟨predicate, composed, made, prepared⟩

/-! ### After the clause is composed -/

/-- That the first answer of a connection is a count: a row whose total is an integer, or no row,
which counts as zero. -/
inductive Connection.CountsTo (connection : Connection) : Int → Prop
  | row {fields : Fields} {later : List Value} {total : Int} :
    connection.answers.headD [] = .record fields :: later →
    fields.get? "total" = some (.int total) → CountsTo connection total
  | none : connection.answers.headD [] = [] → CountsTo connection 0

theorem totalOf_of_countsTo (counted : connection.CountsTo total) :
    totalOf (connection.answers.headD []) = .ok total := by
  cases counted with
  | row first found =>
    rw [first, totalOf, found]
    rfl
  | none first =>
    rw [first]
    rfl

theorem sendText_of_ok {sql : String} {values : List Value} {statement : Sql.Statement}
    (bound : Sql.Statement.ofText sql values = .ok statement) :
    connection.sendText sql values = ⟨[.command (.text statement)],
      .ok (connection.answers.headD [], ⟨connection.answers.tail⟩)⟩ := by
  unfold Connection.sendText
  rw [bound]
  rfl

theorem sendText_of_error {sql : String} {values : List Value} {fault : Sql.PlaceholderFault}
    (unbound : Sql.Statement.ofText sql values = .error fault) :
    connection.sendText sql values = .fail (.placeholder fault) := by
  unfold Connection.sendText
  rw [unbound]
  rfl

/-- The statement that counts the rows meeting a clause, given with its values named. -/
def countStatement (request : PageRequest) (params : List Value) (text : String) : Sql.Statement :=
  ⟨countSql request.table text, (List.range' 1 params.length).zip params⟩

/-- The statement that reads a page of the rows meeting a clause, given with its values named. The
values of the page come after those of the clause. -/
def pageStatement (request : PageRequest) (params : List Value) (text : String) : Sql.Statement :=
  ⟨pageSql request.table text request.order (namedPage (params.length + 1)),
    (List.range' 1 params.length).zip params ++
      [(params.length + 1, .int request.limit), (params.length + 2, .int request.offset)]⟩

/-- A clause that defines all its parameters is sent in two statements. -/
theorem sendPage_of_defined {predicate : Predicate}
    (prepared : Prepared setting request predicate composed) (counted : connection.CountsTo total)
    (defined : Sql.unnamed? composed.params.length (Sql.named composed.whereClause.toList) = none) :
    sendPage connection request composed =
      ⟨[.command (.text (countStatement request composed.params
          (String.ofList (Sql.named composed.whereClause.toList)))),
        .command (.text (pageStatement request composed.params
          (String.ofList (Sql.named composed.whereClause.toList))))],
        .ok ⟨connection.answers.tail.headD [], composed.applied, .int total⟩⟩ := by
  have count := ofText_countSql prepared.table prepared.numbered
  rw [defined] at count
  have page := ofText_pageSql prepared.table prepared.order prepared.written prepared.numbered
    defined (.int request.limit) (.int request.offset)
  have answered : (totalOf (connection.answers.headD [])).mapError Failure.count = .ok total := by
    rw [totalOf_of_countsTo counted]
    rfl
  unfold sendPage
  rw [sendText_of_ok count, Traced.bind_of_ok rfl]
  dsimp only
  rw [answered, Traced.ofExcept_ok_bind, sendText_of_ok page]
  rfl

/-- A clause that does not define all its parameters is refused before anything is sent. -/
theorem sendPage_of_undefined {predicate : Predicate}
    (prepared : Prepared setting request predicate composed) {number : Nat}
    (undefined : Sql.unnamed? composed.params.length (Sql.named composed.whereClause.toList) =
      some number) :
    sendPage connection request composed = .fail (.placeholder (.undefinedName number)) := by
  have count := ofText_countSql prepared.table prepared.numbered
  rw [undefined] at count
  unfold sendPage
  rw [sendText_of_error count]
  rfl

end Halves

/-! ### The whole -/

/-- That a read sends nothing when it is refused, and that this is for its arguments; and that it
sends two statements otherwise, which carry one clause and bind all of its values. -/
structure ReadsWhole (setting : ReadSetting) (connection : Connection) (request : PageRequest)
    (total : Int) : Prop where
  refused : ∀ {failure}, (fetchPage setting connection request).outcome = .error failure →
    (fetchPage setting connection request).commands = [] ∧ PageRefusal setting request failure
  /-- Where the stack suffices, links are no cause to refuse a read unless a lookup fails. -/
  unanswered : setting.HasRoom request.params.length 4 → ∀ {failure},
    setting.LinksFail request.params.length 4 failure →
      ∃ role resource, setting.lookup role resource = .error failure
  answered : ∀ {result}, (fetchPage setting connection request).outcome = .ok result →
    ∃ predicate composed text,
      (setting.predicate request.table request.params.length).outcome = .ok predicate ∧
      compose request.base request.params predicate = .ok composed ∧
      Sql.namePlaceholders composed.params.length composed.whereClause = .ok text ∧
      (fetchPage setting connection request).commands =
        [.text (countStatement request composed.params text),
          .text (pageStatement request composed.params text)] ∧
      result = ⟨connection.answers.tail.headD [], setting.context.isSome, .int total⟩

section Whole

variable {setting : ReadSetting} {connection : Connection} {request : PageRequest} {total : Int}

theorem readsWhole_of_refused {failure : Failure}
    (silent : (fetchPage setting connection request).commands = [])
    (failed : (fetchPage setting connection request).outcome = .error failure)
    (cause : PageRefusal setting request failure) :
    ReadsWhole setting connection request total := by
  refine ⟨fun other => ?_, fun room _ fails => fails.exists_unanswered room, fun ended => ?_⟩
  · rw [failed] at other
    cases other
    exact ⟨silent, cause⟩
  · rw [failed] at ended
    cases ended

theorem readsWhole_of_sent {predicate : Predicate} {composed : Composed}
    (prepared : Prepared setting request predicate composed)
    (sent : (fetchPage setting connection request).commands =
      [.text (countStatement request composed.params
          (String.ofList (Sql.named composed.whereClause.toList))),
        .text (pageStatement request composed.params
          (String.ofList (Sql.named composed.whereClause.toList)))])
    (ended : (fetchPage setting connection request).outcome =
      .ok ⟨connection.answers.tail.headD [], composed.applied, .int total⟩) :
    ReadsWhole setting connection request total := by
  refine ⟨fun failed => ?_, fun room _ fails => fails.exists_unanswered room, fun other => ?_⟩
  · rw [ended] at failed
    cases failed
  · rw [ended] at other
    cases other
    refine ⟨predicate, composed, _, prepared.built, prepared.made,
      Sql.namePlaceholders_eq_named prepared.numbered, sent, ?_⟩
    rw [applied_of_compose prepared.made, applied_of_buildPredicate prepared.built]

/-- Where the predicate cannot be built nothing is sent, although the arguments are accepted. -/
theorem fetchPage_of_unbuilt {failure : Failure} (table : isTableName request.table = true)
    (order : request.order.all Sql.isOrderList = true)
    (page : (0 ≤ request.limit && 0 ≤ request.offset : Bool) = true)
    (unbuilt : (setting.predicate request.table request.params.length).outcome = .error failure) :
    (fetchPage setting connection request).commands = [] ∧
      (fetchPage setting connection request).outcome = .error failure := by
  have silent : (setting.predicate request.table request.params.length).commands = [] :=
    commands_buildPredicate _ _ _ _
  rw [fetchPage_eq, preparePage_of_accepted table order page, Traced.bind_of_error unbuilt,
    Traced.bind_of_error rfl]
  exact ⟨silent, rfl⟩

end Whole

/-- Reads of a caller who may see no orders. -/
def deniedSetting : ReadSetting :=
  ⟨.standard, fun _ _ => .ok (.raw .null), none, some ⟨"orders", "customer", .ready .denyAll, []⟩,
    .standard⟩

def orderRequest : PageRequest := ⟨"orders", "", [], some "created_at DESC", 20, 40⟩

/-- A connection that counts three orders, and reads one. -/
def orderConnection : Connection := ⟨[[.record [("total", .int 3)]], [.record [("id", .int 7)]]]⟩

/-- A request without values has none that could be unnamed. -/
theorem orderRequest_not_refused {failure : Failure} :
    ¬ PageRefusal deniedSetting orderRequest failure := by
  intro refusal
  cases refusal with
  | table unnamed => exact absurd unnamed (by decide)
  | order given unordered =>
    cases given
    exact absurd unordered (by decide)
  | page negative => exact absurd negative (by decide)
  | links fails =>
    obtain ⟨_, _, -, given, -⟩ := fails
    cases given
  | base other _ => exact other (Sql.numberedUpTo_zero (by decide))
  | undefined built made _ low high _ =>
    cases built
    rw [params_of_compose made] at high
    exact absurd (Nat.le_trans low high) (by decide)

/-- A reader of nodes whose policy is that of the node above. -/
def nodeSetting : ReadSetting :=
  ⟨deepConfig, delegatingLookup, some (.ofLinks [nodeLink]),
    some { nodeContext with policy := .ready .parentDelegated }, .standard⟩

/-- The predicate of such a reader cannot be built, wherever the call is made. -/
theorem outcome_buildPredicate_nodes (offset : Int) (calls : Nat) :
    ∃ call, (buildPredicate nodeSetting.config nodeSetting.lookup nodeSetting.links
      nodeSetting.context "nodes" offset (nodeSetting.stack.below calls)).outcome =
        .error (Stack.standard.overflow call) :=
  @outcome_parentScoped_selfLink "nodes" deepConfig
    { nodeContext with policy := .ready .parentDelegated } offset
    ((Stack.standard.below calls).below 1) rfl (.inl rfl) (by decide : 1000 < 5000)

def nodeRequest : PageRequest := ⟨"nodes", "", [], none, 50, 0⟩

end RowSecurity
