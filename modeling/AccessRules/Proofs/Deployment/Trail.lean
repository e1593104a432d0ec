import AccessRules.Proofs.Deployment.Counters
import AccessRules.Proofs.Engine.Audit

/-!
# The audit of a run

A run that asks resolvers leaves an audit in the log: the decisions, and the conditions that failed
before them. **`audit_of_run`** says that it is neither more nor less than the trails of all
hearings of the run, one after another, and that the hearings are what the questions were answered
by (`Conducts`): one for a question whether something may be done or what is decided, and for a
listing one for each action that the rules for the type mention, in the order of their first
appearance.

Asking changes the log and the counters, but no resolver and no client (`put_asked?`), so that a run
goes on with the resolvers that it began with.
-/

namespace AccessRules

/-- The question is answered by the hearings, held by the rules. -/
inductive Question.Answered (rules : List Rule) : Question → List Hearing → Deployment.Answer → Prop
  | can {subject : Subject} {resource : Resource} {action : Document} {decision : Decision}
      {reports : List Report} :
      Answered rules (.can subject resource action)
        [⟨rules, subject, resource, action, decision, reports⟩] (.truth decision.allowed)
  | decide {subject : Subject} {resource : Resource} {action : Document} {decision : Decision}
      {reports : List Report} :
      Answered rules (.decide subject resource action)
        [⟨rules, subject, resource, action, decision, reports⟩] (.decision decision)
  | list {subject : Subject} {resource : Resource} {hearings : List Hearing}
      (held : ∀ hearing ∈ hearings, hearing.rules = rules ∧ hearing.subject = subject ∧
        hearing.resource = resource)
      (actions : hearings.map Hearing.action =
        (Resolver.distinct (mentioned rules resource.type)).map .text) :
      Answered rules (.list subject resource) hearings
        (.labels ((hearings.filter (·.decision.allowed)).map fun hearing =>
          permissionLabel (resource.type.text?.getD "") (hearing.action.text?.getD "")))

/-- The hearings that a resolver holds to answer a question. -/
def Question.hearings (service : Service) : Question → List Hearing
  | .can subject resource action | .decide subject resource action =>
      [service.hearing subject resource action]
  | .list subject resource => (service.resolver.actionsFor resource.type).map fun action =>
      service.hearing subject resource (.text action)

namespace Deployment

/-- A run that asks resolvers with the standard evaluator, with all hearings that are held on the
way, in order. -/
inductive Conducts : Deployment → List Operation → List Hearing → Prop
  | done {deployment : Deployment} : Conducts deployment [] []
  | asks {deployment : Deployment} {operation : Operation} {rest : List Operation}
      {service : Service} {question : Question} {held later : List Hearing}
      (asked : deployment.asked? operation = some (service, question))
      (standard : service.resolver.evaluator = .standard)
      (answered : question.Answered service.resolver.store.rules held
        (deployment.perform operation).1)
      (goesOn : Conducts (deployment.perform operation).2 rest later) :
      Conducts deployment (operation :: rest) (held ++ later)

variable {deployment : Deployment} {operation : Operation} {service : Service}
  {question : Question}

/-! ### One question -/

/-- Asking changes no resolver and no client, so that what is asked next is the same as before. -/
theorem put_asked? (deployment : Deployment) (service : Service) (question : Question)
    (operation : Operation) :
    (deployment.put service question).2.asked? operation = deployment.asked? operation := by
  have services : (deployment.put service question).2.engine.services =
      deployment.engine.services := by
    cases question with
    | can => exact Engine.tellAll_services ..
    | decide => exact Engine.tellAll_services ..
    | list => exact Engine.grantedAmong_services ..
  cases operation with
  | ask => rw [asked?, asked?, services]
  | client => rw [asked?, asked?, services, put_clients]
  | _ => rfl

theorem hearings_isSound (coherent : service.resolver.store.Coherent)
    (standard : service.resolver.evaluator = .standard) (question : Question) :
    ∀ hearing ∈ question.hearings service, hearing.IsSound := by
  intro hearing among
  cases question with
  | can subject resource action | decide subject resource action =>
      obtain rfl := List.mem_singleton.1 among
      exact Service.hearing_isSound coherent standard ..
  | list subject resource =>
      obtain ⟨action, -, rfl⟩ := List.mem_map.1 among
      exact Service.hearing_isSound coherent standard ..

theorem put_answered (coherent : service.resolver.store.Coherent) (deployment : Deployment)
    (question : Question) :
    question.Answered service.resolver.store.rules (question.hearings service)
      (deployment.put service question).1 := by
  cases question with
  | can subject resource action => exact .can
  | decide subject resource action => exact .decide
  | list subject resource =>
      have labels : (deployment.put service (.list subject resource)).1 =
          .labels (((Question.list subject resource).hearings service |>.filter
            (·.decision.allowed)).map fun hearing =>
              permissionLabel (resource.type.text?.getD "") (hearing.action.text?.getD "")) := by
        refine (congrArg Answer.labels (Engine.allowedActions_fst ..)).trans ?_
        rw [Resolver.allowedActions, Question.hearings, List.filter_map, List.map_map]
        rfl
      rw [labels]
      refine .list ?_ ?_
      · intro hearing among
        obtain ⟨action, -, rfl⟩ := List.mem_map.1 among
        exact ⟨rfl, rfl, rfl⟩
      · rw [Question.hearings, List.map_map, Resolver.actionsFor, coherent.forResource_eq]
        rfl

theorem put_events (standard : service.resolver.evaluator = .standard) (deployment : Deployment)
    (question : Question) :
    (deployment.put service question).2.engine.events =
      deployment.engine.events ++ (question.hearings service).flatMap Hearing.trail := by
  cases question with
  | can subject resource action | decide subject resource action =>
      rw [Question.hearings, List.flatMap_singleton]
      exact deployment.engine.decide_events standard subject resource action
  | list subject resource => exact deployment.engine.allowedActions_events standard subject resource

/-! ### Many questions -/

/-- A run that asks holds hearings, and writes their trails to the log and nothing else. -/
theorem conducts_of_asks {operations : List Operation} (coherent : deployment.AllCoherent)
    (asks : ∀ operation ∈ operations, ∃ service question,
      deployment.asked? operation = some (service, question) ∧
        service.resolver.evaluator = .standard) :
    ∃ hearings, deployment.Conducts operations hearings ∧
      (∀ hearing ∈ hearings, hearing.IsSound) ∧
      (deployment.after operations).engine.events =
        deployment.engine.events ++ hearings.flatMap Hearing.trail := by
  -- A question leaves the resolvers as they are, so that the rest asks what it asked before.
  induction operations generalizing deployment with
  | nil => exact ⟨[], .done, by simp, by simp⟩
  | cons operation rest ih =>
      obtain ⟨service, question, asked, standard⟩ := asks operation List.mem_cons_self
      have sound := hearings_isSound (coherent service (mem_of_asked asked)) standard question
      have answered := put_answered (coherent service (mem_of_asked asked)) deployment question
      have told := put_events standard deployment question
      have performed := perform_of_asked asked
      rw [← performed] at answered told
      obtain ⟨later, conducts, laterSound, laterTold⟩ :=
        ih (coherent.perform operation) fun other among => by
          rw [performed, put_asked?]
          exact asks other (List.mem_cons_of_mem _ among)
      refine ⟨_, .asks asked standard answered conducts, fun hearing among => ?_, ?_⟩
      · obtain first | second := List.mem_append.1 among
        · exact sound hearing first
        · exact laterSound hearing second
      · rw [after_cons, laterTold, told, List.flatMap_append, List.append_assoc]

/-- **The audit of a run.** A run that asks resolvers with the standard evaluator adds to the audit
the trails of the hearings that it holds, in order, and nothing else. Each of them is as it should
be, and they are what the questions are answered by. Deployments are coherent from their opening on
(`opening_allCoherent`, `AllCoherent.after`). -/
theorem audit_of_run {operations : List Operation} (coherent : deployment.AllCoherent)
    (asks : ∀ operation ∈ operations, ∃ service question,
      deployment.asked? operation = some (service, question) ∧
        service.resolver.evaluator = .standard) :
    ∃ hearings, deployment.Conducts operations hearings ∧
      (∀ hearing ∈ hearings, hearing.IsSound) ∧
      (deployment.after operations).engine.audit =
        deployment.engine.audit ++ hearings.flatMap Hearing.trail := by
  obtain ⟨hearings, conducts, sound, told⟩ := conducts_of_asks coherent asks
  refine ⟨hearings, conducts, sound, ?_⟩
  have audited : ∀ event ∈ hearings.flatMap Hearing.trail,
      event.text = "Permission decision" ∨ event.text = "Condition evaluation failed" := by
    intro event among
    obtain ⟨hearing, -, left⟩ := List.mem_flatMap.1 among
    exact hearing.audit_trail event left
  rw [Engine.audit, Engine.audit, told, List.filter_append,
    List.filter_eq_self.2 fun event among => decide_eq_true (audited event among)]

/-- A rule whose condition breaks stands before one that grants the request; a listing meets it
again. -/
theorem audit_of_run_past_broken_condition :
    ∃ (service : Service) (deployment : Deployment) (operations : List Operation),
      service.resolver.store.rules =
        [⟨"document", "read", none, some (.array []), nofun⟩,
         ⟨"document", "read", none, none, nofun⟩,
         ⟨"document", "write", some ["admin"], none, nofun⟩] ∧
      deployment.engine.services = [service] ∧
      operations =
        [.ask 0 (.can ⟨.text "u1", [], []⟩ ⟨.text "d1", .text "document", []⟩ (.text "read")),
         .ask 0 (.list ⟨.text "u1", [], []⟩ ⟨.text "d1", .text "document", []⟩)] ∧
      deployment.AllCoherent ∧
      (∀ operation ∈ operations, ∃ service question,
        deployment.asked? operation = some (service, question) ∧
          service.resolver.evaluator = .standard) ∧
      (∃ hearings, deployment.Conducts operations hearings ∧
        (∀ hearing ∈ hearings, hearing.IsSound) ∧
        (deployment.after operations).engine.audit =
          deployment.engine.audit ++ hearings.flatMap Hearing.trail) ∧
      (deployment.after operations).engine.audit.map LogEvent.text =
        ["Condition evaluation failed", "Permission decision",
         "Condition evaluation failed", "Permission decision", "Permission decision"] := by
  let rules : List Rule := [⟨"document", "read", none, some (.array []), nofun⟩,
    ⟨"document", "read", none, none, nofun⟩, ⟨"document", "write", some ["admin"], none, nofun⟩]
  let service : Service := ⟨⟨⟨rules, 0, 0, none⟩, .standard⟩, none⟩
  let deployment : Deployment := ⟨{ Engine.initial with services := [service] }, [], 0⟩
  have coherent : deployment.AllCoherent := by
    intro other among
    obtain rfl := List.mem_singleton.1 among
    exact Store.coherent_of_cached_eq_none rfl
  have asks : ∀ operation ∈
      [Operation.ask 0
        (.can ⟨.text "u1", [], []⟩ ⟨.text "d1", .text "document", []⟩ (.text "read")),
       .ask 0 (.list ⟨.text "u1", [], []⟩ ⟨.text "d1", .text "document", []⟩)],
      ∃ service question, deployment.asked? operation = some (service, question) ∧
        service.resolver.evaluator = .standard := by
    intro operation among
    obtain rfl | rfl : operation = _ ∨ operation = _ := by simpa using among
    · exact ⟨service, _, rfl, rfl⟩
    · exact ⟨service, _, rfl, rfl⟩
  exact ⟨service, deployment, _, rfl, rfl, rfl, coherent, asks, audit_of_run coherent asks, by
    decide +kernel⟩

end Deployment

end AccessRules
