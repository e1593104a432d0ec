import AccessRules.Proofs.Deployment.Step

/-!
# What changes the setting of the log

How the log is set up is part of an engine, and each function that takes an engine and gives the
next one has one lemma here. All but `Engine.configureLogging` keep the setting; a start sets it
once, before anything else. **`Deployment.perform_logging`** puts this together: an operation asks
for a level (`Operation.setting?`) or leaves the log alone.
-/

namespace AccessRules

/-- The log after calls that ask for levels, one after another. -/
def Logging.after (logging : Logging) (levels : List Document) : Logging :=
  levels.foldl (fun logging level => (logging.configure level).2) logging

namespace Engine

/-! ### Telling, deciding and building -/

@[simp] theorem tell_logging (engine : Engine) (collector : Option String) (notice : Notice) :
    (engine.tell collector notice).logging = engine.logging := by
  cases collector <;> rfl

@[simp] theorem tellAll_logging (engine : Engine) (collector : Option String)
    (notices : List Notice) : (engine.tellAll collector notices).logging = engine.logging := by
  induction notices generalizing engine with
  | nil => rfl
  | cons notice rest ih => exact (ih _).trans (tell_logging engine collector notice)

theorem decide_logging (engine : Engine) (service : Service) (subject : Subject)
    (resource : Resource) (action : Document) :
    (engine.decide service subject resource action).2.logging = engine.logging :=
  tellAll_logging ..

theorem grantedAmong_logging (engine : Engine) (service : Service) (subject : Subject)
    (resource : Resource) (actions : List String) :
    (engine.grantedAmong service subject resource actions).2.logging = engine.logging := by
  induction actions generalizing engine with
  | nil => rfl
  | cons action rest ih => exact (ih _).trans (decide_logging ..)

theorem newResolver_logging {engine : Engine} {evaluator : Evaluator} {collector : Option String}
    {inputs : List RuleInput} {built : Nat × Engine}
    (made : engine.newResolver evaluator collector inputs = .ok built) :
    built.2.logging = engine.logging := by
  obtain ⟨rules, describe⟩ | ⟨index, failure, refused⟩ := describe_or_refused inputs
  · rw [newResolver_of_describe describe] at made
    obtain rfl := Except.ok.inj made
    rfl
  · rw [newResolver_of_error (Store.rulesOf_of_refused refused)] at made
    cases made

theorem finishLoad_logging (engine : Engine) (evaluator : Evaluator) (collector : Option String)
    (loaded : Except Failure (List Rule)) :
    (engine.finishLoad evaluator collector loaded).2.logging = engine.logging := by
  cases loaded with
  | error failure => exact tell_logging ..
  | ok rules =>
      rw [finishLoad]
      cases made : (engine.tell collector (.rulesLoaded rules.length)).newResolver evaluator
          collector (rules.map .rule) with
      | error failure => exact tell_logging ..
      | ok built => exact (newResolver_logging made).trans (tell_logging ..)

theorem addRule_logging {engine : Engine} {number : Nat} {service : Service} {input : RuleInput}
    {added : Rule × Engine} (made : engine.addRule number service input = .ok added) :
    added.2.logging = engine.logging := by
  cases described : input.toRule with
  | error failure =>
      rw [addRule_of_refused described] at made
      cases made
  | ok rule =>
      rw [addRule_of_made described] at made
      obtain rfl := Except.ok.inj made
      exact tell_logging ..

theorem collectorFor_logging {engine : Engine} {settings : Settings} {given : Option String}
    {registry : String} {chosen : Option String × Engine}
    (made : engine.collectorFor settings given registry = .ok chosen) :
    chosen.2.logging = engine.logging := by
  cases given with
  | some collector =>
      obtain rfl := Except.ok.inj made
      rfl
  | none =>
      simp only [collectorFor] at made
      split at made
      · rw [register] at made
        cases taken : engine.metrics? registry with
        | some metrics => simp [taken, Failure.lift, bind, Except.bind] at made
        | none =>
            simp [taken, Failure.lift, bind, Except.bind, pure, Except.pure] at made
            rw [← made]
      · obtain rfl := Except.ok.inj made
        rfl

end Engine

theorem Fetch.run_logging (fetch : Fetch) (engine : Engine) :
    (fetch.run engine).2.logging = engine.logging :=
  engine.tellAll_logging none fetch.told

theorem RuleSource.fetch_logging (source : RuleSource) (providers : Providers) (engine : Engine) :
    (source.fetch providers engine).2.logging = engine.logging := by
  obtain ⟨fetch, same⟩ := source.exists_fetch providers
  rw [same]
  exact fetch.run_logging engine

/-! ### Clients -/

namespace Client

theorem finish_logging (client : Client) (engine : Engine) (fetched : Fetched) :
    (client.finish engine fetched).2.2.logging = engine.logging := by
  have loaded := engine.finishLoad_logging client.evaluator client.collector fetched.rules
  rw [finish, Engine.loadFromFetch]
  cases came : engine.finishLoad client.evaluator client.collector fetched.rules with
  | mk result next =>
    rw [came] at loaded
    cases result with
    | ok number => exact (Engine.tell_logging next none _).trans loaded
    | error failure => exact loaded

theorem initializeByFetch_logging {fetch : Engine → Fetched × Engine}
    (fetches : ∀ engine : Engine, (fetch engine).2.logging = engine.logging) (client : Client)
    (engine : Engine) : (client.initializeByFetch engine fetch).2.2.logging = engine.logging := by
  rw [initializeByFetch]
  split
  · exact (finish_logging ..).trans (fetches engine)
  · rfl
  · rfl

theorem initializeFromRules_logging (client : Client) (engine : Engine)
    (inputs : List RuleInput) :
    (client.initializeFromRules engine inputs).2.2.logging = engine.logging := by
  rw [initializeFromRules]
  split
  · rfl
  · cases made : engine.newResolver client.evaluator client.collector inputs with
    | error failure => rfl
    | ok built => exact (Engine.tell_logging built.2 none _).trans (Engine.newResolver_logging made)

end Client

namespace Engine

theorem openClient_logging (engine : Engine) (settings : Settings) (collector : Option String)
    (providers : Providers) :
    (engine.openClient settings collector fun source => source.fetch providers).2.logging =
      engine.logging := by
  rw [openClient]
  cases settings.source with
  | error failure => rfl
  | ok source =>
      have opened := Client.initializeByFetch_logging (source.fetch_logging providers)
        (.new .standard collector) engine
      cases came : (Client.new .standard collector).initializeByFetch engine
          (source.fetch providers) with
      | mk result rest =>
        obtain ⟨client, next⟩ := rest
        rw [came] at opened
        cases result with
        | ok number => simpa only [came] using opened
        | error failure => simpa only [came] using opened

theorem configureLogging_logging (engine : Engine) (service : String) (level : Document) :
    (engine.configureLogging service level).2.logging = (engine.logging.configure level).2 := by
  rw [configureLogging]
  cases engine.logging.configure level with
  | mk result logging =>
    cases result with
    | ok _ => exact tell_logging { engine with logging := logging } none _
    | error fault => rfl

/-- A start asks for its level, whatever comes of it. -/
theorem attempt_logging (engine : Engine) (registry : String) (attempt : Attempt) :
    (engine.attempt registry attempt).2.logging =
      (engine.logging.configure (.text attempt.settings.logLevel)).2 := by
  have set := engine.configureLogging_logging attempt.settings.service
    (.text attempt.settings.logLevel)
  rw [Engine.attempt, startClient]
  cases came : engine.configureLogging attempt.settings.service
      (.text attempt.settings.logLevel) with
  | mk result next =>
    rw [came] at set
    cases result with
    | error failure => exact set
    | ok _ =>
      cases chosen : next.collectorFor attempt.settings attempt.given registry with
      | error failure => simpa only [chosen] using set
      | ok chosen' =>
        simp only [chosen]
        exact (openClient_logging ..).trans ((collectorFor_logging chosen).trans set)

end Engine

/-! ### Operations -/

namespace Deployment

/-- The service and the level for which an operation sets up the log. -/
def Operation.setting? : Operation → Option (String × Document)
  | .start _ attempt => some (attempt.settings.service, .text attempt.settings.logLevel)
  | _ => none

variable (deployment : Deployment)

theorem put_logging (service : Service) (question : Question) :
    (deployment.put service question).2.engine.logging = deployment.engine.logging := by
  cases question with
  | can => exact Engine.decide_logging ..
  | decide => exact Engine.decide_logging ..
  | list => exact Engine.grantedAmong_logging ..

theorem putTo_logging (number : Nat) (question : Question) :
    (deployment.putTo number question).2.engine.logging = deployment.engine.logging := by
  rw [putTo]
  split
  · exact put_logging ..
  · rfl

theorem delegate_logging (client : Client) (question : Question) :
    (deployment.delegate client question).2.engine.logging = deployment.engine.logging := by
  rw [delegate]
  split
  · exact putTo_logging ..
  · rfl

theorem useClient_logging (number : Nat) (client : Client) (use : Client.Operation) :
    (deployment.useClient number client use).2.engine.logging = deployment.engine.logging := by
  cases use with
  | initializeByFetch fetch =>
      exact client.initializeByFetch_logging fetch.run_logging deployment.engine
  | initializeFromRules given =>
      cases given with
      | ok inputs => exact client.initializeFromRules_logging deployment.engine inputs
      | error failure => rfl
  | isInitialized => rfl
  | getResolver => rfl
  | can => exact delegate_logging ..
  | list => exact delegate_logging ..

/-- An operation asks for its level, if it has one, and nothing else changes the setting. -/
theorem perform_logging (operation : Operation) :
    (deployment.perform operation).2.engine.logging =
      deployment.engine.logging.after (operation.setting?.map Prod.snd).toList := by
  cases operation with
  | newResolver evaluator collector given =>
      cases given with
      | error failure => rfl
      | ok inputs =>
          cases made : deployment.engine.newResolver evaluator collector inputs with
          | error failure => simp only [perform, made, bind, Except.bind]; rfl
          | ok built =>
              simp only [perform, made, bind, Except.bind]
              exact Engine.newResolver_logging made
  | loadFromSource => exact Engine.finishLoad_logging ..
  | loadFromFetch => exact Engine.finishLoad_logging ..
  | newClient => rfl
  | start registry attempt =>
      have started : (deployment.engine.attempt registry attempt).2.logging =
          deployment.engine.logging.after [.text attempt.settings.logLevel] :=
        deployment.engine.attempt_logging registry attempt
      cases came : deployment.engine.attempt registry attempt with
      | mk result next =>
        rw [came] at started
        cases result with
        | ok client =>
            simp only [perform, came, addClient]
            exact started
        | error failure =>
            simp only [perform, came]
            exact started
  | client number use =>
      cases found : deployment.clients[number]? with
      | none => simp only [perform, found]; rfl
      | some client =>
          simp only [perform, found]
          exact useClient_logging ..
  | addRule number input =>
      cases found : deployment.engine.services[number]? with
      | none => simp only [perform, found]; rfl
      | some service =>
          cases made : deployment.engine.addRule number service input with
          | error failure => simp only [perform, found, made]; rfl
          | ok added =>
              simp only [perform, found, made]
              exact Engine.addRule_logging made
  | rules number => rw [perform_rules]; rfl
  | ask number question => exact putTo_logging ..

end Deployment

end AccessRules
