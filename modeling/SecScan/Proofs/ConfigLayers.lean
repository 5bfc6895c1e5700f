import Mathlib
import SecScan.Config.Settings
import SecScan.Cli.Effects

/-!
Where each setting comes from. Settings start from their defaults, a configuration file is laid
over them section by section, and the environment last. `build_layered` says, for every file
whose layer is taken and every environment whose values are taken, what each of the settings of
the four sections ends up as (`Layered`): the value of the variable that drives it when that is
set and not empty, read as the setting's type; otherwise the file's value for it, converted;
otherwise its default.

The key is the one exception: it comes from `AISAST_API_KEY`, then from the key variable of the
service finally chosen, then from the file. A service without a key variable has the empty name
as its variable, so its key is read from a variable with the empty name when the environment
holds one (`key_from_unnamed_variable`).

The proof follows the layers. Laying a section over settings is a fold over its entries in which
each entry updates the setting it names and leaves the others as they were (`*_frames`, checked
on the section's report), so a setting follows the last entry for it (`foldlM_follows_last`).
-/

namespace SecScan.Proofs.ConfigLayers

open SecScan.Config SecScan.Data SecScan.Text

section Layer

/-- Whether a mapping key is the text `key`. -/
def keyIs (key : String) : Value → Bool
  | .str k => k == key
  | _ => false

/-- The value the last of these entries gives `key`: a mapping read from a file holds each key
once, and one that held it twice would keep the later value. -/
def lastGiven (entries : List (Value × Value)) (key : String) : Option Value :=
  ((entries.filter fun e => keyIs key e.1).getLast?).map (·.2)

theorem lastGiven_cons (e : Value × Value) (rest : List (Value × Value)) (key : String) :
    lastGiven (e :: rest) key =
      (lastGiven rest key).or (if keyIs key e.1 then some e.2 else none) := by
  unfold lastGiven
  rw [List.filter_cons]
  split
  · rw [List.getLast?_cons]
    cases (rest.filter fun e => keyIs key e.1).getLast? <;> rfl
  · cases (rest.filter fun e => keyIs key e.1).getLast? <;> rfl

/-- A setting follows the last entry for its key, converted, and keeps `start` when no entry
gives it. -/
def FollowsLast {α : Type} (convert : Value → Except ConfigError α)
    (entries : List (Value × Value)) (key : String) (start x : α) : Prop :=
  match lastGiven entries key with
  | some v => convert v = .ok x
  | none => x = start

/-- A fold whose steps convert an entry for `key` into the setting and leave the setting alone
on every other entry makes the setting follow the last entry for `key`. -/
theorem foldlM_follows_last {σ α : Type} {step : σ → Value × Value → Except ConfigError σ}
    (get : σ → α) (key : String) (convert : Value → Except ConfigError α)
    (hit : ∀ t v t', step t (.str key, v) = .ok t' → convert v = .ok (get t'))
    (miss : ∀ t e t', keyIs key e.1 = false → step t e = .ok t' → get t' = get t) :
    ∀ (entries : List (Value × Value)) (s r : σ), entries.foldlM step s = .ok r →
      FollowsLast convert entries key (get s) (get r) := by
  intro entries
  induction entries with
  | nil =>
    intro s r run
    cases run
    rfl
  | cons e rest ih =>
    intro s r run
    rw [List.foldlM_cons] at run
    cases first : step s e with
    | error err =>
      rw [first] at run
      cases run
    | ok s₁ =>
      rw [first] at run
      have later := ih s₁ r run
      unfold FollowsLast at later ⊢
      rw [lastGiven_cons]
      -- a later entry for the key decides; without one, this entry does
      cases last : lastGiven rest key with
      | some v =>
        rw [last] at later
        exact later
      | none =>
        rw [last] at later
        change get r = get s₁ at later
        rw [later, Option.none_or]
        obtain ⟨k, v⟩ := e
        by_cases hitKey : keyIs key k = true
        · have named : k = .str key := by
            cases k <;> simp_all [keyIs]
          subst named
          rw [if_pos hitKey]
          exact hit s v s₁ first
        · rw [if_neg hitKey]
          exact miss s (k, v) s₁ (by simpa using hitKey) first

/-- One entry of a section laid over it: a text key that names a setting updates that setting. -/
def layStep {σ : Type} (fields : List (Config.Field σ)) (sectionName : String) (h : Heap) :
    σ → Value × Value → Except ConfigError σ :=
  fun s (key, value) =>
    match key with
    | .str k =>
      match fields.find? (·.name == k) with
      | some f => f.update (sectionName ++ "." ++ k) h value s
      | none => pure s
    | _ => pure s

section Step

variable {σ α : Type} {fields : List (Config.Field σ)} {key sectionName : String} {h : Heap}
  (get : σ → α)

theorem layStep_hit {F : Config.Field σ}
    (convert : String → Heap → Value → Except ConfigError α)
    (found : fields.find? (·.name == key) = some F)
    (own : ∀ n v t t', F.update n h v t = .ok t' → convert n h v = .ok (get t'))
    {t t' : σ} {v : Value} (step : layStep fields sectionName h t (.str key, v) = .ok t') :
    convert (sectionName ++ "." ++ key) h v = .ok (get t') := by
  unfold layStep at step
  dsimp only at step
  rw [found] at step
  exact own _ _ _ _ step

theorem layStep_miss
    (frame : ∀ g ∈ fields, g.name ≠ key →
      ∀ n v t t', g.update n h v t = .ok t' → get t' = get t)
    {t t' : σ} {e : Value × Value} (notKey : keyIs key e.1 = false)
    (step : layStep fields sectionName h t e = .ok t') : get t' = get t := by
  obtain ⟨k, v⟩ := e
  unfold layStep at step
  dsimp only at step
  cases k
  case str k =>
    dsimp only at step
    -- a text key updates the setting it names, which is another one, or nothing
    split at step
    · rename_i g lookedUp
      have named : g.name = k := by simpa using List.find?_some lookedUp
      refine frame g (List.mem_of_find?_eq_some lookedUp) ?_ _ _ _ _ step
      rw [named]
      simpa [keyIs] using notKey
    · cases step
      rfl
  all_goals
    cases step
    rfl

end Step

/-- The entries of a section of a layer; none when the section is absent or falsy. -/
def sectionEntries (doc : Document) (sectionName : String) : List (Value × Value) :=
  match doc.heap.lookup doc.root sectionName with
  | some v => if doc.heap.truthy v then ((doc.heap.entries? v).getD #[]).toList else []
  | none => []

/-- A setting of a section takes the value the layer gives it, converted, and keeps `start` when
the layer gives none. -/
def FromLayer {α : Type} (convert : String → Heap → Value → Except ConfigError α)
    (doc : Document) (sectionName key : String) (start x : α) : Prop :=
  FollowsLast (convert (sectionName ++ "." ++ key) doc.heap) (sectionEntries doc sectionName) key
    start x

/-- Laying a layer over a section sets each setting from the last entry for it. -/
theorem layOver_follows {σ α : Type} {fields : List (Config.Field σ)} {F : Config.Field σ}
    {key sectionName : String} {doc : Document} {s r : σ} (get : σ → α)
    (convert : String → Heap → Value → Except ConfigError α)
    (found : fields.find? (·.name == key) = some F)
    (own : ∀ n v t t', F.update n doc.heap v t = .ok t' → convert n doc.heap v = .ok (get t'))
    (frame : ∀ g ∈ fields, g.name ≠ key →
      ∀ n v t t', g.update n doc.heap v t = .ok t' → get t' = get t)
    (run : layOver fields sectionName doc.heap doc.root s = .ok r) :
    FromLayer convert doc sectionName key (get s) (get r) := by
  have folds : ∀ values : Array (Value × Value),
      values.foldlM (layStep fields sectionName doc.heap) s = .ok r →
      FollowsLast (convert (sectionName ++ "." ++ key) doc.heap) values.toList key (get s)
        (get r) := by
    intro values fold
    rw [← Array.foldlM_toList] at fold
    exact foldlM_follows_last get key _ (fun _ _ _ => layStep_hit get convert found own)
      (fun _ _ _ => layStep_miss get frame) values.toList s r fold
  unfold layOver at run
  unfold FromLayer sectionEntries
  dsimp only at run
  -- an absent or falsy section lays nothing, one that is no mapping is refused
  cases found : doc.heap.lookup doc.root sectionName with
  | none =>
    rw [found] at run
    exact folds #[] run
  | some v =>
    rw [found] at run
    dsimp only at run ⊢
    by_cases truthy : doc.heap.truthy v = true
    · rw [if_pos truthy]
      rw [if_neg (by simpa using truthy)] at run
      cases mapping : doc.heap.entries? v with
      | none =>
        rw [mapping] at run
        cases run
      | some values =>
        rw [mapping] at run
        exact folds values run
    · rw [if_neg truthy]
      rw [if_pos (by simpa using truthy)] at run
      exact folds #[] run

end Layer

section Sections

theorem map_eq_ok {ε α β : Type} {e : Except ε α} {f : α → β} {b : β}
    (mapped : e.map f = .ok b) :
    ∃ a, e = .ok a ∧ f a = b := by
  cases e with
  | error err => cases mapped
  | ok a => exact ⟨a, rfl, Except.ok.inj mapped⟩

/-- A setting whose section reports it under its name follows its layer, given that updating
another setting leaves the report under this name alone. -/
theorem layOver_follows_view {σ α : Type} {fields : List (Config.Field σ)} {F : Config.Field σ}
    {key sectionName : String} {doc : Document} {s r : σ} (view : σ → Json)
    (frames : ∀ g ∈ fields, ∀ n h v t t', g.update n h v t = .ok t' →
      ∀ k, g.name ≠ k → (view t').field? k = (view t).field? k)
    (get : σ → α) (enc : α → Json) (distinct : Function.Injective enc)
    (reads : ∀ t, (view t).field? key = some (enc (get t)))
    (convert : String → Heap → Value → Except ConfigError α)
    (found : fields.find? (·.name == key) = some F)
    (own : ∀ n v t t', F.update n doc.heap v t = .ok t' → convert n doc.heap v = .ok (get t'))
    (run : layOver fields sectionName doc.heap doc.root s = .ok r) :
    FromLayer convert doc sectionName key (get s) (get r) := by
  refine layOver_follows get convert found own ?_ run
  intro g member named n v t t' update
  have same := frames g member n doc.heap v t t' update key named
  rw [reads, reads] at same
  exact distinct (Option.some.inj same)

theorem llm_frames : ∀ g ∈ LlmSettings.fields, ∀ n h v t t', g.update n h v t = .ok t' →
    ∀ k, g.name ≠ k → (LlmSettings.toJson t').field? k = (LlmSettings.toJson t).field? k := by
  intro g member n h v t t' update k other
  simp only [LlmSettings.fields, List.mem_cons, List.not_mem_nil, or_false] at member
  rcases member with rfl | rfl | rfl | rfl | rfl | rfl | rfl | rfl | rfl | rfl | rfl
  all_goals
    obtain ⟨x, -, rfl⟩ := map_eq_ok update
    simp only [LlmSettings.toJson, Json.field?, List.find?_cons, beq_false_of_ne other]

theorem scan_frames : ∀ g ∈ ScanSettings.fields, ∀ n h v t t', g.update n h v t = .ok t' →
    ∀ k, g.name ≠ k →
      (ScanSettings.toJson t').field? k = (ScanSettings.toJson t).field? k := by
  intro g member n h v t t' update k other
  simp only [ScanSettings.fields, List.mem_cons, List.not_mem_nil, or_false] at member
  rcases member with rfl | rfl | rfl
  all_goals
    obtain ⟨x, -, rfl⟩ := map_eq_ok update
    simp only [ScanSettings.toJson, Json.field?, List.find?_cons, beq_false_of_ne other]

theorem sonar_frames : ∀ g ∈ SonarSettings.fields, ∀ n h v t t', g.update n h v t = .ok t' →
    ∀ k, g.name ≠ k →
      (SonarSettings.toJson t').field? k = (SonarSettings.toJson t).field? k := by
  intro g member n h v t t' update k other
  simp only [SonarSettings.fields, List.mem_cons, List.not_mem_nil, or_false] at member
  rcases member with rfl | rfl | rfl | rfl
  all_goals
    obtain ⟨x, -, rfl⟩ := map_eq_ok update
    simp only [SonarSettings.toJson, Json.field?, List.find?_cons, beq_false_of_ne other]

theorem web_frames : ∀ g ∈ WebSettings.fields, ∀ n h v t t', g.update n h v t = .ok t' →
    ∀ k, g.name ≠ k → (WebSettings.toJson t').field? k = (WebSettings.toJson t).field? k := by
  intro g member n h v t t' update k other
  simp only [WebSettings.fields, List.mem_cons, List.not_mem_nil, or_false] at member
  rcases member with rfl | rfl | rfl
  all_goals
    obtain ⟨x, -, rfl⟩ := map_eq_ok update
    simp only [WebSettings.toJson, Json.field?, List.find?_cons, beq_false_of_ne other]

/-- A text setting converts a value for it as the program converts text. -/
def textValue (name : String) (h : Heap) (v : Value) : Except ConfigError String :=
  toText name "str" h v

end Sections

section Merge

theorem bind_eq_ok {ε α β : Type} {x : Except ε α} {f : α → Except ε β} {b : β}
    (run : x >>= f = .ok b) : ∃ a, x = .ok a ∧ f a = .ok b := by
  cases x with
  | error e => cases run
  | ok a => exact ⟨a, rfl, run⟩

/-- A field update that converts the value and stores it gives the converted value back. -/
theorem converts_to {σ α : Type} {convert : String → Heap → Value → Except ConfigError α}
    {set : σ → α → σ} {get : σ → α} {h : Heap} (getSet : ∀ t x, get (set t x) = x) :
    ∀ n v t t', (convert n h v).map (set t) = .ok t' → convert n h v = .ok (get t') := by
  intro n v t t' update
  obtain ⟨x, conv, rfl⟩ := map_eq_ok update
  rw [getSet]
  exact conv

end Merge

section Environment

variable {α : Type} {env : List (String × String)} {var : String}

/-- A setting takes the value of a variable that is set and not empty, read with `read`, and
otherwise is as `fallback` says. -/
def EnvOr (env : List (String × String)) (var : String) (read : String → Except ConfigError α)
    (fallback : α → Prop) (x : α) : Prop :=
  match envValue env var with
  | some v => read v = .ok x
  | none => fallback x

theorem envOr_fromEnv {read : String → Except ConfigError α} {fallback : α → Prop}
    {current x : α}
    (run : fromEnv (envValue env var) read current = .ok x) (kept : fallback current) :
    EnvOr env var read fallback x := by
  unfold EnvOr
  unfold fromEnv at run
  cases given : envValue env var with
  | some v =>
    rw [given] at run
    exact run
  | none =>
    rw [given] at run
    cases run
    exact kept

theorem envOr_getD {fallback : String → Prop} {current : String} (kept : fallback current) :
    EnvOr env var .ok fallback ((envValue env var).getD current) := by
  unfold EnvOr
  cases envValue env var with
  | some v => rfl
  | none => exact kept

theorem envOr_map_getD {f : String → String} {fallback : String → Prop} {current : String}
    (kept : fallback current) :
    EnvOr env var (fun v => .ok (f v)) fallback (((envValue env var).map f).getD current) := by
  unfold EnvOr
  cases envValue env var with
  | some v => rfl
  | none => exact kept

/-- A setting read from the first of two variables that is set and not empty. -/
theorem envOr_orElse {second : String} {fallback : String → Prop} {current : String}
    (kept : fallback current) :
    EnvOr env var .ok (EnvOr env second .ok fallback)
      ((envValue env var <|> envValue env second).getD current) := by
  unfold EnvOr
  cases envValue env var with
  | some v => rfl
  | none =>
    cases envValue env second with
    | some w => rfl
    | none => exact kept

end Environment

section Load

/-- Every setting of the four sections as the environment, a layer and the defaults decide it:
a variable that drives the setting and is set and not empty wins, read as the setting's type
(the service lower-cased); otherwise the layer's value for it, converted; otherwise the default.
The key is read from `AISAST_API_KEY`, then from the key variable of the service finally chosen. -/
structure Layered (doc : Document) (env : List (String × String)) (s : Settings) : Prop where
  provider : EnvOr env "AISAST_PROVIDER" (fun p => .ok (toLower p))
    (FromLayer textValue doc "llm" "provider" ({} : LlmSettings).provider) s.llm.provider
  model : EnvOr env "AISAST_MODEL" .ok
    (FromLayer textValue doc "llm" "model" ({} : LlmSettings).model) s.llm.model
  apiKey : EnvOr env "AISAST_API_KEY" .ok (EnvOr env (keyVariable s.llm.provider) .ok
    (FromLayer textValue doc "llm" "api_key" ({} : LlmSettings).apiKey)) s.llm.apiKey
  baseUrl : EnvOr env "AISAST_BASE_URL" .ok
    (FromLayer textValue doc "llm" "base_url" ({} : LlmSettings).baseUrl) s.llm.baseUrl
  enabled : EnvOr env "AISAST_ENRICH" (toFlag "AISAST_ENRICH" {} <| .str ·)
    (FromLayer toFlag doc "llm" "enabled" ({} : LlmSettings).enabled) s.llm.enabled
  timeout : EnvOr env "AISAST_TIMEOUT" (toReal "AISAST_TIMEOUT" {} <| .str ·)
    (FromLayer toReal doc "llm" "timeout" ({} : LlmSettings).timeout) s.llm.timeout
  deadline : EnvOr env "AISAST_DEADLINE" (toReal "AISAST_DEADLINE" {} <| .str ·)
    (FromLayer toReal doc "llm" "deadline" ({} : LlmSettings).deadline) s.llm.deadline
  maxConcurrency :
    EnvOr env "AISAST_MAX_CONCURRENCY" (toWhole "AISAST_MAX_CONCURRENCY" {} <| .str ·)
    (FromLayer toWhole doc "llm" "max_concurrency" ({} : LlmSettings).maxConcurrency)
    s.llm.maxConcurrency
  maxTokens : FromLayer toWhole doc "llm" "max_tokens" ({} : LlmSettings).maxTokens s.llm.maxTokens
  temperature :
    FromLayer toReal doc "llm" "temperature" ({} : LlmSettings).temperature s.llm.temperature
  confidenceThreshold : FromLayer toWhole doc "llm" "confidence_threshold"
    ({} : LlmSettings).confidenceThreshold s.llm.confidenceThreshold
  defaultLanguage : FromLayer textValue doc "scan" "default_language"
    ({} : ScanSettings).defaultLanguage s.scan.defaultLanguage
  excludePatterns : FromLayer toNames doc "scan" "exclude_patterns"
    ({} : ScanSettings).excludePatterns s.scan.excludePatterns
  maxFileSize :
    FromLayer toWhole doc "scan" "max_file_size" ({} : ScanSettings).maxFileSize s.scan.maxFileSize
  url : EnvOr env "SONARQUBE_URL" .ok
    (FromLayer textValue doc "sonarqube" "url" ({} : SonarSettings).url) s.sonarqube.url
  token : EnvOr env "SONARQUBE_TOKEN" .ok
    (FromLayer textValue doc "sonarqube" "token" ({} : SonarSettings).token) s.sonarqube.token
  projectKey : FromLayer textValue doc "sonarqube" "project_key"
    ({} : SonarSettings).projectKey s.sonarqube.projectKey
  sonarTimeout :
    FromLayer toReal doc "sonarqube" "timeout" ({} : SonarSettings).timeout s.sonarqube.timeout
  host : FromLayer textValue doc "web" "host" ({} : WebSettings).host s.web.host
  port : EnvOr env "AISAST_WEB_PORT" (toWhole "AISAST_WEB_PORT" {} <| .str ·)
    (FromLayer toWhole doc "web" "port" ({} : WebSettings).port) s.web.port
  maxSessions :
    FromLayer toWhole doc "web" "max_sessions" ({} : WebSettings).maxSessions s.web.maxSessions

/-- A layer that is taken is laid over each section in turn. -/
theorem merge_sections {s s' : Settings} {doc : Document} (run : s.merge doc = .ok s') :
    layOver LlmSettings.fields "llm" doc.heap doc.root s.llm = .ok s'.llm ∧
      layOver ScanSettings.fields "scan" doc.heap doc.root s.scan = .ok s'.scan ∧
      layOver SonarSettings.fields "sonarqube" doc.heap doc.root s.sonarqube = .ok s'.sonarqube ∧
      layOver WebSettings.fields "web" doc.heap doc.root s.web = .ok s'.web := by
  unfold Settings.merge at run
  obtain ⟨llm, llmRun, run⟩ := bind_eq_ok run
  obtain ⟨scan, scanRun, run⟩ := bind_eq_ok run
  obtain ⟨sonarqube, sonarRun, run⟩ := bind_eq_ok run
  obtain ⟨web, webRun, run⟩ := bind_eq_ok run
  cases run
  exact ⟨llmRun, scanRun, sonarRun, webRun⟩

/-- A configuration file whose layer is taken, and an environment whose values are taken, give
settings that follow the environment, then the file, then the defaults, setting by setting. -/
theorem build_layered {room : Nat} {path text : String} {env : List (String × String)}
    {doc : Document} {merged s : Settings} (read : readFile room path text = .ok doc)
    (fileTaken : ({} : Settings).merge doc = .ok merged) (envTaken : merged.applyEnv env = .ok s) :
    Settings.build room path (some text) [] env = .ok s ∧ Layered doc env s := by
  refine ⟨?_, ?_⟩
  · unfold Settings.build
    dsimp only
    rw [read]
    simp only [bind, Except.bind, fileTaken, List.foldlM_nil, pure, Except.pure]
    exact envTaken
  · obtain ⟨llmRun, scanRun, sonarRun, webRun⟩ := merge_sections fileTaken
    unfold Settings.applyEnv at envTaken
    obtain ⟨enabled, enabledRun, envTaken⟩ := bind_eq_ok envTaken
    obtain ⟨timeout, timeoutRun, envTaken⟩ := bind_eq_ok envTaken
    obtain ⟨deadline, deadlineRun, envTaken⟩ := bind_eq_ok envTaken
    obtain ⟨maxConcurrency, concurrencyRun, envTaken⟩ := bind_eq_ok envTaken
    obtain ⟨port, portRun, envTaken⟩ := bind_eq_ok envTaken
    cases envTaken
    exact {
      provider := envOr_map_getD (layOver_follows_view LlmSettings.toJson llm_frames (·.provider)
        .str (fun _ _ same => Json.str.inj same) (fun _ => rfl) textValue rfl
        (converts_to fun _ _ => rfl) llmRun)
      model := envOr_getD (layOver_follows_view LlmSettings.toJson llm_frames (·.model)
        .str (fun _ _ same => Json.str.inj same) (fun _ => rfl) textValue rfl
        (converts_to fun _ _ => rfl) llmRun)
      apiKey := envOr_orElse (layOver_follows_view LlmSettings.toJson llm_frames (·.apiKey)
        .str (fun _ _ same => Json.str.inj same) (fun _ => rfl) textValue rfl
        (converts_to fun _ _ => rfl) llmRun)
      baseUrl := envOr_getD (layOver_follows_view LlmSettings.toJson llm_frames (·.baseUrl)
        .str (fun _ _ same => Json.str.inj same) (fun _ => rfl) textValue rfl
        (converts_to fun _ _ => rfl) llmRun)
      enabled := envOr_fromEnv enabledRun (layOver_follows_view LlmSettings.toJson llm_frames
        (·.enabled) .bool (fun _ _ same => Json.bool.inj same) (fun _ => rfl) toFlag rfl
        (converts_to fun _ _ => rfl) llmRun)
      timeout := envOr_fromEnv timeoutRun (layOver_follows_view LlmSettings.toJson llm_frames
        (·.timeout) .float (fun _ _ same => Json.float.inj same) (fun _ => rfl) toReal rfl
        (converts_to fun _ _ => rfl) llmRun)
      deadline := envOr_fromEnv deadlineRun (layOver_follows_view LlmSettings.toJson llm_frames
        (·.deadline) .float (fun _ _ same => Json.float.inj same) (fun _ => rfl) toReal rfl
        (converts_to fun _ _ => rfl) llmRun)
      maxConcurrency := envOr_fromEnv concurrencyRun (layOver_follows_view LlmSettings.toJson
        llm_frames (·.maxConcurrency) .int (fun _ _ same => Json.int.inj same) (fun _ => rfl)
        toWhole rfl (converts_to fun _ _ => rfl) llmRun)
      maxTokens := layOver_follows_view (r := merged.llm) LlmSettings.toJson llm_frames
        (·.maxTokens) .int (fun _ _ same => Json.int.inj same) (fun _ => rfl) toWhole rfl
        (converts_to fun _ _ => rfl) llmRun
      temperature := layOver_follows_view (r := merged.llm) LlmSettings.toJson llm_frames
        (·.temperature) .float (fun _ _ same => Json.float.inj same) (fun _ => rfl) toReal rfl
        (converts_to fun _ _ => rfl) llmRun
      confidenceThreshold := layOver_follows_view (r := merged.llm) LlmSettings.toJson
        llm_frames (·.confidenceThreshold) .int (fun _ _ same => Json.int.inj same) (fun _ => rfl)
        toWhole rfl (converts_to fun _ _ => rfl) llmRun
      defaultLanguage := layOver_follows_view (r := merged.scan) ScanSettings.toJson scan_frames
        (·.defaultLanguage) .str (fun _ _ same => Json.str.inj same) (fun _ => rfl) textValue rfl
        (converts_to fun _ _ => rfl) scanRun
      excludePatterns := layOver_follows_view (r := merged.scan) ScanSettings.toJson scan_frames
        (·.excludePatterns) (fun l => .arr (l.map .str))
        (fun _ _ same => (List.map_inj_right fun _ _ same => Json.str.inj same).mp
          (Json.arr.inj same))
        (fun _ => rfl) toNames rfl (converts_to fun _ _ => rfl) scanRun
      maxFileSize := layOver_follows_view (r := merged.scan) ScanSettings.toJson scan_frames
        (·.maxFileSize) .int (fun _ _ same => Json.int.inj same) (fun _ => rfl) toWhole rfl
        (converts_to fun _ _ => rfl) scanRun
      url := envOr_getD (layOver_follows_view SonarSettings.toJson sonar_frames (·.url)
        .str (fun _ _ same => Json.str.inj same) (fun _ => rfl) textValue rfl
        (converts_to fun _ _ => rfl) sonarRun)
      token := envOr_getD (layOver_follows_view SonarSettings.toJson sonar_frames (·.token)
        .str (fun _ _ same => Json.str.inj same) (fun _ => rfl) textValue rfl
        (converts_to fun _ _ => rfl) sonarRun)
      projectKey := layOver_follows_view (r := merged.sonarqube) SonarSettings.toJson
        sonar_frames (·.projectKey) .str (fun _ _ same => Json.str.inj same) (fun _ => rfl)
        textValue rfl (converts_to fun _ _ => rfl) sonarRun
      sonarTimeout := layOver_follows_view (r := merged.sonarqube) SonarSettings.toJson
        sonar_frames (·.timeout) .float (fun _ _ same => Json.float.inj same) (fun _ => rfl)
        toReal rfl (converts_to fun _ _ => rfl) sonarRun
      host := layOver_follows_view (r := merged.web) WebSettings.toJson web_frames (·.host)
        .str (fun _ _ same => Json.str.inj same) (fun _ => rfl) textValue rfl
        (converts_to fun _ _ => rfl) webRun
      port := envOr_fromEnv portRun (layOver_follows_view WebSettings.toJson web_frames (·.port)
        .int (fun _ _ same => Json.int.inj same) (fun _ => rfl) toWhole rfl
        (converts_to fun _ _ => rfl) webRun)
      maxSessions := layOver_follows_view (r := merged.web) WebSettings.toJson web_frames
        (·.maxSessions) .int (fun _ _ same => Json.int.inj same) (fun _ => rfl) toWhole rfl
        (converts_to fun _ _ => rfl) webRun }

/-- An empty file, and an environment that names the service and gives its key under the
service's own variable. -/
theorem layered_openai_key :
    Settings.build Cli.configRoom "config.yaml" (some "") []
        [("AISAST_PROVIDER", "OpenAI"), ("OPENAI_API_KEY", "k"), ("AISAST_MAX_CONCURRENCY", "8")] =
      .ok { llm := { provider := "openai", apiKey := "k", maxConcurrency := 8 } } ∧
    Layered (Document.ofJson (.obj []))
      [("AISAST_PROVIDER", "OpenAI"), ("OPENAI_API_KEY", "k"), ("AISAST_MAX_CONCURRENCY", "8")]
      { llm := { provider := "openai", apiKey := "k", maxConcurrency := 8 } } :=
  build_layered (by cbv) rfl rfl

/-- A local service has no key variable, and its key is then read from the variable with the
empty name. -/
theorem key_from_unnamed_variable :
    keyVariable "ollama" = "" ∧
      (Settings.build Cli.configRoom "config.yaml" none []
          [("AISAST_PROVIDER", "ollama"), ("", "k")]).map (·.llm.apiKey) = .ok "k" :=
  ⟨rfl, rfl⟩

end Load

end SecScan.Proofs.ConfigLayers
