import Mathlib.Data.List.Induction
import Mathlib.Logic.Function.Basic
import RefactorGateway.Bridge.Config
import RefactorGateway.Proofs.Text.Ending
/-!
# Settings

Each setting of a configuration has sources of its own, and is decided by the first of them that
says something; afterwards it can be set anew, any number of times.  The URL loses the slashes at
its end wherever it comes from, so that a path is joined to it by one slash.

## Main Definitions

* `firstNonBlank`: the first of several values that is there and not blank
* `Config.ResolvedFrom`: what the sources say of each setting
* `Setting`, `Config.set`, `Config.setAll`: settings that are set anew, one or several
* `Config.SetBy`: what is said of each setting by those that are set anew
* `slashesBetween`: the slashes in a row where two texts meet
* `CarriesUrl`: what is left of a value without the slashes at its end is not blank

## Main Statements

* `Config.resolvedFrom_resolve`: the sources decide
* `Config.field_setAll`, `Config.setBy_setAll`: of what is set anew, the last decides
* `settings_decided`: how a configuration comes about, and how paths are joined to it
* `resolve_carries_iff`: when the URL of a configuration is blank

## Design Notes

Whether a value counts is asked before the slashes at its end are taken away, and not again after.
So a value of slashes alone counts as an URL although nothing of it remains
(`resolve_lone_slash`).
-/

namespace RefactorGateway.Bridge

open Text (Stripped slashes)

/-! ### Sources -/

/-- The first of several values that is there and is not blank. -/
def firstNonBlank (values : List (Option String)) : Option String :=
  (values.filterMap id).find? fun value => Text.trim value ≠ ""

theorem Config.nonBlank_some {value : String} (visible : Text.trim value ≠ "") :
    nonBlank (some value) = some value := by
  rw [Ne, Text.trim_eq_empty_iff, Bool.not_eq_true] at visible
  rw [nonBlank, Option.filter_some, visible]
  rfl

theorem Config.nonBlank_of_blank {value : String} (blank : Text.trim value = "") :
    nonBlank (some value) = none := by
  rw [Text.trim_eq_empty_iff] at blank
  rw [nonBlank, Option.filter_some, blank]
  rfl

theorem firstNonBlank_nil : firstNonBlank [] = none := rfl

theorem firstNonBlank_cons (value : Option String) (rest : List (Option String)) :
    firstNonBlank (value :: rest) = (Config.nonBlank value).or (firstNonBlank rest) := by
  cases value with
  | none => rfl
  | some value =>
    have present : (some value :: rest).filterMap id = value :: rest.filterMap id :=
      List.filterMap_cons_some rfl
    by_cases blank : Text.trim value = ""
    · rw [firstNonBlank, present, List.find?_cons_of_neg (by simpa using blank),
        Config.nonBlank_of_blank blank, Option.none_or]
      rfl
    · rw [firstNonBlank, present, List.find?_cons_of_pos (by simpa using blank),
        Config.nonBlank_some blank, Option.some_or]

theorem trim_ne_of_firstNonBlank {values : List (Option String)} {value : String}
    (first : firstNonBlank values = some value) : Text.trim value ≠ "" := by
  have visible := List.find?_some first
  exact of_decide_eq_true visible

namespace Config

theorem nonBlank_defaultBaseUrl : nonBlank (some defaultBaseUrl) = some defaultBaseUrl :=
  nonBlank_some (by decide)

/-- What the sources say of each setting. -/
structure ResolvedFrom (baseUrl authToken : Option String) (timeout : Option Nat)
    (env : Environment) (c : Config) : Prop where
  /-- The URL is the first that is not blank, without the slashes at its end. -/
  baseUrl : ∃ value,
    firstNonBlank [baseUrl, env urlVariable, some defaultBaseUrl] = some value ∧
      Stripped value c.baseUrl
  /-- The token is the first that is not blank, if there is one, as it stands. -/
  authToken : c.authToken = firstNonBlank [authToken, env tokenVariable]
  /-- The timeout is the given one or half a minute. -/
  timeout : c.timeout = timeout.getD 30000

theorem firstNonBlank_urls (baseUrl : Option String) (env : Environment) :
    firstNonBlank [baseUrl, env urlVariable, some defaultBaseUrl] =
      some (((nonBlank baseUrl).or (nonBlank (env urlVariable))).getD defaultBaseUrl) := by
  rw [firstNonBlank_cons, firstNonBlank_cons, firstNonBlank_cons, firstNonBlank_nil,
    nonBlank_defaultBaseUrl, Option.or_none, ← Option.or_assoc]
  exact Option.or_some

theorem resolvedFrom_resolve (baseUrl authToken : Option String) (timeout : Option Nat)
    (env : Environment) :
    ResolvedFrom baseUrl authToken timeout env (resolve baseUrl authToken timeout env) where
  baseUrl := ⟨_, firstNonBlank_urls baseUrl env, Text.stripped_trimSlashes _⟩
  authToken := by
    rw [firstNonBlank_cons, firstNonBlank_cons, firstNonBlank_nil, Option.or_none]
    rfl
  timeout := rfl

/-! ### Slashes behind a URL -/

theorem nonBlank_append_slashes {url : String} (visible : Text.trim url ≠ "") (k : Nat) :
    nonBlank (some (url ++ slashes k)) = some (url ++ slashes k) := by
  apply nonBlank_some
  rw [Ne, Text.trim_eq_empty_iff, Text.allBlank_append, Bool.and_eq_true] at *
  exact fun blank => visible blank.1

/-- Slashes behind a URL that is given make no difference. -/
theorem resolve_append_slashes {url : String} (visible : Text.trim url ≠ "") (k : Nat)
    (authToken : Option String) (timeout : Option Nat) (env : Environment) :
    resolve (some (url ++ slashes k)) authToken timeout env =
      resolve (some url) authToken timeout env := by
  unfold resolve
  rw [nonBlank_append_slashes visible, nonBlank_some visible, Option.some_or, Option.some_or,
    Option.getD_some, Option.getD_some, Text.trimSlashes_append_slashes]

/-- Nor do slashes behind the URL of the environment, whether it is used or not. -/
theorem resolve_update_append_slashes {url : String} (visible : Text.trim url ≠ "") (k : Nat)
    (baseUrl authToken : Option String) (timeout : Option Nat) (env : Environment) :
    resolve baseUrl authToken timeout (Function.update env urlVariable (some (url ++ slashes k))) =
      resolve baseUrl authToken timeout (Function.update env urlVariable (some url)) := by
  have other : tokenVariable ≠ urlVariable := by decide
  unfold resolve
  rw [Function.update_self, Function.update_self, Function.update_of_ne other,
    Function.update_of_ne other, nonBlank_append_slashes visible, nonBlank_some visible]
  cases nonBlank baseUrl with
  | some _ => rfl
  | none =>
    rw [Option.none_or, Option.none_or, Option.getD_some, Option.getD_some,
      Text.trimSlashes_append_slashes]

end Config

/-! ### Settings that are set anew -/

/-- A setting that is set anew. -/
inductive Setting
  | baseUrl (url : String)
  | authToken (token : String)
  | timeout (milliseconds : Nat)

namespace Setting

/-- The URL that is set, if it is one. -/
def url? : Setting → Option String
  | .baseUrl url => some url
  | _ => none

/-- The token that is set, if it is one. -/
def token? : Setting → Option String
  | .authToken token => some token
  | _ => none

/-- The timeout that is set, if it is one. -/
def timeout? : Setting → Option Nat
  | .timeout milliseconds => some milliseconds
  | _ => none

end Setting

/-- The last of what is set of one kind. -/
def lastSet {α : Type} (kind : Setting → Option α) (settings : List Setting) : Option α :=
  (settings.filterMap kind).getLast?

theorem lastSet_append_singleton {α : Type} (kind : Setting → Option α) (settings : List Setting)
    (setting : Setting) :
    lastSet kind (settings ++ [setting]) = (kind setting).or (lastSet kind settings) := by
  rw [lastSet, List.filterMap_append, List.getLast?_append]
  cases given : kind setting with
  | none => rw [List.filterMap_cons_none given]; rfl
  | some value => rw [List.filterMap_cons_some given]; rfl

namespace Config

/-- The configuration with one setting set anew. -/
def set (c : Config) : Setting → Config
  | .baseUrl url => c.withBaseUrl url
  | .authToken token => c.withAuthToken token
  | .timeout milliseconds => c.withTimeout milliseconds

/-- The configuration with settings set anew, one after the other. -/
def setAll (c : Config) (settings : List Setting) : Config := settings.foldl set c

theorem setAll_append (c : Config) (settings more : List Setting) :
    c.setAll (settings ++ more) = (c.setAll settings).setAll more :=
  List.foldl_append

theorem set_baseUrl (c : Config) (setting : Setting) :
    (c.set setting).baseUrl = (setting.url?.map Text.trimSlashes).getD c.baseUrl := by
  cases setting <;> rfl

theorem set_authToken (c : Config) (setting : Setting) :
    (c.set setting).authToken = (setting.token?.map some).getD c.authToken := by
  cases setting <;> rfl

theorem set_timeout (c : Config) (setting : Setting) :
    (c.set setting).timeout = setting.timeout?.getD c.timeout := by
  cases setting <;> rfl

/-- **Of what is set anew, the last decides.**  It is enough that each setting that is set decides
its own field and leaves the others. -/
theorem field_setAll {α β : Type} {field : Config → α} {kind : Setting → Option β} {read : β → α}
    (step : ∀ c setting, field (set c setting) = ((kind setting).map read).getD (field c))
    (c : Config) (settings : List Setting) :
    field (c.setAll settings) = ((lastSet kind settings).map read).getD (field c) := by
  induction settings using List.reverseRecOn with
  | nil => rfl
  | append_singleton settings setting ih =>
    have last : field (c.setAll (settings ++ [setting])) =
        ((kind setting).map read).getD (field (c.setAll settings)) := by
      rw [setAll_append]
      exact step _ setting
    rw [last, ih, lastSet_append_singleton]
    cases kind setting <;> rfl

/-- What is said of each setting of a configuration by those that are set anew. -/
structure SetBy (c start : Config) (settings : List Setting) : Prop where
  /-- The last URL that is set loses the slashes at its end, but may be blank. -/
  baseUrl_of_set : ∀ url, lastSet Setting.url? settings = some url → Stripped url c.baseUrl
  baseUrl_of_not_set : lastSet Setting.url? settings = none → c.baseUrl = start.baseUrl
  authToken : c.authToken = (lastSet Setting.token? settings).or start.authToken
  timeout : c.timeout = (lastSet Setting.timeout? settings).getD start.timeout

theorem setBy_setAll (c : Config) (settings : List Setting) :
    (c.setAll settings).SetBy c settings where
  baseUrl_of_set := by
    intro url last
    rw [field_setAll set_baseUrl, last]
    exact Text.stripped_trimSlashes url
  baseUrl_of_not_set := by
    intro not_set
    rw [field_setAll set_baseUrl, not_set]
    rfl
  authToken := by
    rw [field_setAll set_authToken]
    cases lastSet Setting.token? settings <;> rfl
  timeout := by
    have step : ∀ (c : Config) (setting : Setting),
        (c.set setting).timeout = (setting.timeout?.map id).getD c.timeout := by
      intro c setting
      rw [set_timeout, Option.map_id]
      rfl
    rw [field_setAll step, Option.map_id]
    rfl

/-- Slashes behind a URL that is set anew make no difference. -/
theorem set_append_slashes (c : Config) (url : String) (k : Nat) :
    c.set (.baseUrl (url ++ slashes k)) = c.set (.baseUrl url) := by
  show c.withBaseUrl (url ++ slashes k) = c.withBaseUrl url
  rw [withBaseUrl, withBaseUrl, Text.trimSlashes_append_slashes]

/-! ### Paths -/

/-- No slash is left at the end of the URL, wherever it comes from. -/
theorem endsWith_setAll_resolve (baseUrl authToken : Option String) (timeout : Option Nat)
    (env : Environment) (settings : List Setting) :
    ((resolve baseUrl authToken timeout env).setAll settings).baseUrl.endsWith '/' = false := by
  have setBy := setBy_setAll (resolve baseUrl authToken timeout env) settings
  cases last : lastSet Setting.url? settings with
  | some url => exact (setBy.baseUrl_of_set url last).no_slash
  | none =>
    rw [setBy.baseUrl_of_not_set last]
    obtain ⟨value, -, stripped⟩ := (resolvedFrom_resolve baseUrl authToken timeout env).baseUrl
    exact stripped.no_slash

end Config

/-- The slashes in a row where two texts meet. -/
def slashesBetween (front back : String) : Nat :=
  (front.toList.rtakeWhile (· == '/')).length + (back.toList.takeWhile (· == '/')).length

/-- Between a text that does not end in a slash and one that begins with a single slash there is
one. -/
theorem slashesBetween_eq_one {front rest : String} (bare : front.endsWith '/' = false)
    (single : rest.startsWith '/' = false) : slashesBetween front ("/" ++ rest) = 1 := by
  have before : front.toList.rtakeWhile (· == '/') = [] := by
    rw [List.rtakeWhile_eq_nil_iff]
    intro some same
    rw [String.endsWith_char_eq_getLast?, List.getLast?_eq_some_getLast some, eq_of_beq same,
      beq_self_eq_true] at bare
    cases bare
  have behind : rest.toList.takeWhile (· == '/') = [] := by
    rw [String.startsWith_char_eq_head?] at single
    cases chars : rest.toList with
    | nil => rfl
    | cons c cs =>
      rw [chars, List.head?_cons, Option.some_beq_some] at single
      exact List.takeWhile_cons_of_neg (Bool.eq_false_iff.1 single)
  have joint : (("/" ++ rest).toList.takeWhile (· == '/')) = ['/'] := by
    rw [String.toList_append]
    show '/' :: rest.toList.takeWhile (· == '/') = ['/']
    rw [behind]
  rw [slashesBetween, before, joint]
  rfl

/-- **How a configuration comes about.**  Each setting is decided by its own sources, in their
order, and then by the last setting of its kind that is set anew, if there is one.  The URL has then
no slash at its end, so that a path that begins with one slash is joined to it by one slash; and
slashes behind a URL that is more than blanks make no difference, whether it is given, stands in the
environment, or is set anew. -/
theorem settings_decided (baseUrl authToken : Option String) (timeout : Option Nat)
    (env : Environment) (settings : List Setting) :
    let start := Config.resolve baseUrl authToken timeout env
    let c := start.setAll settings
    start.ResolvedFrom baseUrl authToken timeout env ∧
      (∀ authToken' timeout' env', env' Config.urlVariable = env Config.urlVariable →
        (Config.resolve baseUrl authToken' timeout' env').baseUrl = start.baseUrl) ∧
      (∀ baseUrl' timeout' env', env' Config.tokenVariable = env Config.tokenVariable →
        (Config.resolve baseUrl' authToken timeout' env').authToken = start.authToken) ∧
      (∀ baseUrl' authToken' env',
        (Config.resolve baseUrl' authToken' timeout env').timeout = start.timeout) ∧
      c.SetBy start settings ∧
      c.baseUrl.endsWith '/' = false ∧
      (∀ rest : String, rest.startsWith '/' = false →
        c.endpoint ("/" ++ rest) = c.baseUrl ++ ("/" ++ rest) ∧
          slashesBetween c.baseUrl ("/" ++ rest) = 1) ∧
      ∀ url k, Text.trim url ≠ "" →
        Config.resolve (some (url ++ slashes k)) authToken timeout env =
            Config.resolve (some url) authToken timeout env ∧
          Config.resolve baseUrl authToken timeout
              (Function.update env Config.urlVariable (some (url ++ slashes k))) =
            Config.resolve baseUrl authToken timeout
              (Function.update env Config.urlVariable (some url)) ∧
          ∀ before behind,
            start.setAll (before ++ .baseUrl (url ++ slashes k) :: behind) =
              start.setAll (before ++ .baseUrl url :: behind) := by
  intro start c
  have bare := Config.endsWith_setAll_resolve baseUrl authToken timeout env settings
  refine ⟨Config.resolvedFrom_resolve baseUrl authToken timeout env, ?_, ?_, fun _ _ _ => rfl,
    Config.setBy_setAll start settings, bare, ?_, ?_⟩
  · intro authToken' timeout' env' same
    unfold start Config.resolve
    rw [same]
  · intro baseUrl' timeout' env' same
    unfold start Config.resolve
    rw [same]
  · intro rest single
    exact ⟨rfl, slashesBetween_eq_one bare single⟩
  · intro url k visible
    refine ⟨Config.resolve_append_slashes visible k authToken timeout env,
      Config.resolve_update_append_slashes visible k baseUrl authToken timeout env, ?_⟩
    intro before behind
    rw [Config.setAll_append, Config.setAll_append]
    show ((start.setAll before).set _).setAll behind = ((start.setAll before).set _).setAll behind
    rw [Config.set_append_slashes]

/-- A blank URL is given, the environment has another, and both URL and timeout are set anew. -/
theorem settings_decided_set_twice :
    let env : Environment := fun name =>
      if name = Config.urlVariable then some "http://env:1//" else none
    let start := Config.resolve (some " ") (some "secret") none env
    let c := start.setAll [.baseUrl "http://first:2", .timeout 5000, .baseUrl "http://last:3/"]
    start = ⟨"http://env:1", some "secret", 30000⟩ ∧
      c = ⟨"http://last:3", some "secret", 5000⟩ ∧
      "health".startsWith '/' = false ∧ slashesBetween c.baseUrl ("/" ++ "health") = 1 ∧
      c.endpoint ("/" ++ "health") = "http://last:3/health" ∧
      Text.trim "http://given:4" ≠ "" ∧
      Config.resolve (some ("http://given:4" ++ slashes 3)) none none env =
        Config.resolve (some "http://given:4") none none env := by
  intro env start c
  have single : "health".startsWith '/' = false := by
    rw [String.startsWith_char_eq_head?]
    decide
  have visible : Text.trim "http://given:4" ≠ "" := by decide
  obtain ⟨-, -, -, -, -, -, joined, -⟩ := settings_decided (some " ") (some "secret") none env
    [.baseUrl "http://first:2", .timeout 5000, .baseUrl "http://last:3/"]
  obtain ⟨-, -, -, -, -, -, -, more⟩ := settings_decided none none none env []
  exact ⟨by decide, by decide, single, (joined "health" single).2, by decide, visible,
    (more "http://given:4" 3 visible).1⟩

/-! ### Values without a URL -/

/-- A value carries a URL unless it is a blank text with slashes behind. -/
def CarriesUrl (value : String) : Prop :=
  ∀ blanks k, Text.trim blanks = "" → value ≠ blanks ++ slashes k

theorem carriesUrl_iff {value : String} :
    CarriesUrl value ↔ Text.trim (Text.trimSlashes value) ≠ "" := by
  rw [Ne, Text.trim_eq_empty_iff, Text.allBlank_trimSlashes_iff]
  constructor
  · rintro carries ⟨blanks, k, blank, same⟩
    exact carries blanks k (Text.trim_eq_empty_iff.2 blank) same
  · intro carries blanks k blank same
    exact carries ⟨blanks, k, Text.trim_eq_empty_iff.1 blank, same⟩

instance : DecidablePred CarriesUrl := fun _ => decidable_of_iff' _ carriesUrl_iff

/-- What carries a URL is not blank. -/
theorem CarriesUrl.trim_ne {value : String} (carries : CarriesUrl value) :
    Text.trim value ≠ "" := by
  intro blank
  exact carries value 0 blank String.append_empty.symm

/-- The first of several values that is there and carries a URL. -/
def firstCarrying (values : List (Option String)) : Option String :=
  (values.filterMap id).find? fun value => CarriesUrl value

/-- If the first value that is not blank carries a URL, it is the first that does. -/
theorem firstCarrying_of_firstNonBlank {values : List (Option String)} {value : String}
    (first : firstNonBlank values = some value) (carries : CarriesUrl value) :
    firstCarrying values = some value := by
  obtain ⟨-, before, behind, split, blank⟩ := List.find?_eq_some_iff_append.1 first
  refine List.find?_eq_some_iff_append.2 ⟨decide_eq_true carries, before, behind, split, ?_⟩
  intro other mem
  have other_blank : Text.trim other = "" := by simpa using blank other mem
  simpa using fun carried : CarriesUrl other => carried.trim_ne other_blank

theorem exists_firstCarrying {values : List (Option String)} {value : String}
    (mem : some value ∈ values) (carries : CarriesUrl value) :
    ∃ first, firstCarrying values = some first := by
  have present : value ∈ values.filterMap id := List.mem_filterMap.2 ⟨some value, mem, rfl⟩
  apply Option.isSome_iff_exists.1
  exact List.find?_isSome.2 ⟨value, present, decide_eq_true carries⟩

theorem carriesUrl_of_firstCarrying {values : List (Option String)} {value : String}
    (first : firstCarrying values = some value) : CarriesUrl value := by
  have carries := List.find?_some first
  exact of_decide_eq_true carries

/-- **When the URL of a configuration is blank.**  The sources are asked for a value that is not
blank.  The URL is not blank, and is the one of the first source that carries a URL, just if this
value carries one; of a blank text with slashes behind only blanks remain, and the other sources are
not asked.  A token is never blank. -/
theorem resolve_carries_iff (baseUrl authToken : Option String) (timeout : Option Nat)
    (env : Environment) :
    let c := Config.resolve baseUrl authToken timeout env
    let sources := [baseUrl, env Config.urlVariable, some Config.defaultBaseUrl]
    (∀ token, c.authToken = some token → Text.trim token ≠ "") ∧
      ∃ value carrying, firstNonBlank sources = some value ∧ firstCarrying sources = some carrying ∧
        (Text.trim c.baseUrl ≠ "" ↔ CarriesUrl value) ∧
        (Stripped carrying c.baseUrl ↔ CarriesUrl value) := by
  intro c sources
  have resolved := Config.resolvedFrom_resolve baseUrl authToken timeout env
  constructor
  · intro token held
    exact trim_ne_of_firstNonBlank (resolved.authToken.symm.trans held)
  · obtain ⟨value, first, stripped⟩ := resolved.baseUrl
    have default_carries : CarriesUrl Config.defaultBaseUrl := by decide
    have offered : some Config.defaultBaseUrl ∈ sources := by simp [sources]
    obtain ⟨carrying, next⟩ := exists_firstCarrying offered default_carries
    have url : c.baseUrl = Text.trimSlashes value := stripped.eq_trimSlashes
    refine ⟨value, carrying, first, next, ?_, ?_, fun carries => ?_⟩
    · rw [url, carriesUrl_iff]
    · -- a URL that is the one of a source that carries one is not blank
      intro same
      rw [carriesUrl_iff, ← url, same.eq_trimSlashes]
      exact carriesUrl_iff.1 (carriesUrl_of_firstCarrying next)
    · rw [firstCarrying_of_firstNonBlank first carries] at next
      exact Option.some.inj next ▸ stripped

/-- A blank token counts as missing, so that of the environment is taken. -/
theorem resolve_carries_blank_token :
    let env : Environment := fun name =>
      if name = Config.tokenVariable then some "secret" else none
    let c := Config.resolve (some "http://given:4/") (some " ") none env
    c.authToken = some "secret" ∧ Text.trim "secret" ≠ "" ∧
      c.baseUrl = "http://given:4" ∧ Text.trim c.baseUrl ≠ "" := by
  intro env c
  have held : c.authToken = some "secret" := by decide
  obtain ⟨visible, value, -, first, -, carries, -⟩ :=
    resolve_carries_iff (some "http://given:4/") (some " ") none env
  have given : value = "http://given:4/" := Option.some.inj (first.symm.trans (by decide))
  exact ⟨held, visible "secret" held, by decide, carries.2 (given ▸ by decide)⟩

/-- A slash alone is taken as the URL although nothing remains of it, be there another URL or
not. -/
theorem resolve_lone_slash :
    let env : Environment := fun name =>
      if name = Config.urlVariable then some "http://env:1/" else none
    (Config.resolve (some "/") none none fun _ => none).baseUrl = "" ∧
      (Config.resolve (some "/") none none env).baseUrl = "" ∧
      ¬ ∀ baseUrl authToken timeout env',
        Text.trim (Config.resolve baseUrl authToken timeout env').baseUrl ≠ "" := by
  intro env
  refine ⟨by decide, by decide, fun never => ?_⟩
  exact never (some "/") none none env (by decide)

end RefactorGateway.Bridge
