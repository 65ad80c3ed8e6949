import AlertMigration.Config
import Mathlib.Data.List.TakeWhile

/-!
Configurations that have been loaded.

What is loaded from an environment is in normal form: its extensions have a dot in front, no comma inside and no
blank at either end, and it is loaded again from the environment that it is printed to. Loading fails on the
values that name no policy and no log level, and on no others (`load_normal_form`).
-/

namespace AlertMigration

/-! ### Trimmed texts -/

namespace Text

def Trimmed (text : Text) : Prop :=
  ∀ c, text.head? = some c ∨ text.getLast? = some c → isBlank c = false

private theorem isBlank_head?_trimStart {text : Text} {c : Char} (first : (trimStart text).head? = some c) :
    isBlank c = false := by
  have stopped := List.head?_dropWhile_not isBlank text
  unfold trimStart at first
  rw [first] at stopped
  exact stopped

private theorem isBlank_getLast?_trimEnd {text : Text} {c : Char} (last : (trimEnd text).getLast? = some c) :
    isBlank c = false := by
  rw [trimEnd, List.getLast?_reverse] at last
  exact isBlank_head?_trimStart last

theorem trimmed_trim (text : Text) : Trimmed (trim text) := by
  rintro c (first | last)
  · apply isBlank_head?_trimStart
    rw [← trimEnd_append_blankTail (trimStart text), List.head?_append]
    unfold trim at first
    rw [first]
    rfl
  · exact isBlank_getLast?_trimEnd last

theorem mem_of_mem_trim {text : Text} {c : Char} (member : c ∈ trim text) : c ∈ text := by
  have started : c ∈ trimStart text := by
    rw [← trimEnd_append_blankTail (trimStart text)]
    exact List.mem_append_left _ member
  exact (List.dropWhile_sublist isBlank).subset started

private theorem trimStart_eq_self {text : Text} (solid : ∀ c, text.head? = some c → isBlank c = false) :
    trimStart text = text := by
  cases text with
  | nil => rfl
  | cons c rest => exact List.dropWhile_cons_of_neg (by simp [solid c rfl])

private theorem trimEnd_eq_self {text : Text} (solid : ∀ c, text.getLast? = some c → isBlank c = false) :
    trimEnd text = text := by
  have reversed : trimStart text.reverse = text.reverse :=
    trimStart_eq_self fun c first => solid c (by rwa [List.head?_reverse] at first)
  unfold trimStart at reversed
  rw [trimEnd, reversed, List.reverse_reverse]

theorem Trimmed.trim_eq {text : Text} (trimmed : Trimmed text) : trim text = text := by
  rw [trim, trimStart_eq_self fun c first => trimmed c (.inl first),
    trimEnd_eq_self fun c last => trimmed c (.inr last)]

theorem trim_eq_nil_of_blank {text : Text} (blank : ∀ c ∈ text, isBlank c = true) : trim text = [] := by
  have nothing : trimStart text = [] := by
    rw [trimStart, List.dropWhile_eq_nil_iff]
    exact blank
  rw [trim, nothing]
  rfl

theorem separator_notMem_of_mem_splitOn {separator : Char} {text part : Text}
    (member : part ∈ text.splitOn separator) : separator ∉ part := by
  induction text generalizing part with
  | nil =>
      rw [List.splitOn_nil, List.mem_singleton] at member
      rw [member]
      exact List.not_mem_nil
  | cons c rest ih =>
      rw [List.splitOn_cons_eq_if_modifyHead] at member
      split at member
      · rcases List.mem_cons.mp member with rfl | later
        · exact List.not_mem_nil
        · exact ih later
      · rename_i different
        cases parts : rest.splitOn separator with
        | nil => exact absurd parts (List.splitOn_ne_nil _ _)
        | cons first others =>
            rw [parts] at member ih
            rcases List.mem_cons.mp member with rfl | later
            · intro inside
              rcases List.mem_cons.mp inside with same | inside
              · exact different (by rw [same]; exact beq_self_eq_true c)
              · exact ih List.mem_cons_self inside
            · exact ih (List.mem_cons_of_mem _ later)

end Text

theorem Policy.mem_all (policy : Policy) : policy ∈ Policy.all := by
  cases policy <;> decide

theorem LogLevel.mem_all (level : LogLevel) : level ∈ LogLevel.all := by
  cases level <;> decide

namespace Config

/-! ### Named values -/

private theorem given?_eq_some_iff {value : Option Text} {text : Text} :
    given? value = some text ↔ value = some text ∧ text ≠ [] := by
  rw [given?, Option.filter_eq_some_iff]
  simp

private theorem given?_eq_none_of_empty {value : Option Text}
    (empty : value.getD [] = []) : given? value = none := by
  cases value with
  | none => rfl
  | some text =>
      cases empty
      rfl

section Named

variable {α : Type} {name : α → String} {fold : Text → Text} {value : Option Text}

/-- A value is given that is none of the names, also without the blanks around it and in their case. -/
def Refused (name : α → String) (fold : Text → Text) (value : Option Text) : Prop :=
  ∃ text, value = some text ∧ text ≠ [] ∧ ∀ item, fold text.trim ≠ (name item).toList

private theorem find?_name_eq_none_iff {all : List α} (complete : ∀ item, item ∈ all) {text : Text} :
    all.find? (fun item => (name item).toList == text) = none ↔ ∀ item, text ≠ (name item).toList := by
  rw [List.find?_eq_none]
  constructor
  · intro missed item same
    exact missed item (complete item) (beq_iff_eq.mpr same.symm)
  · intro different item _ same
    exact different item (eq_of_beq same).symm

private theorem refused_iff {ofName? : Text → Option α}
    (known : ∀ text, ofName? text = none ↔ ∀ item, text ≠ (name item).toList) :
    Refused name fold value ↔ ∃ text, given? value = some text ∧ ofName? (fold text.trim) = none := by
  simp only [Refused, given?_eq_some_iff, known, and_assoc]

private theorem refused_of_blank {text : Text} (present : text ≠ []) (blank : ∀ c ∈ text, isBlank c = true)
    (empty : fold [] = []) (named : ∀ item, name item ≠ "") : Refused name fold (some text) := by
  refine ⟨text, rfl, present, fun item same => ?_⟩
  rw [Text.trim_eq_nil_of_blank blank, empty] at same
  exact named item (String.toList_eq_nil_iff.mp same.symm)

end Named

theorem readPolicy_eq_error_iff {value : Option Text} :
    (∃ error, readPolicy value = .error error) ↔ Refused Policy.name Text.lower value := by
  have known : ∀ text, Policy.ofName? text = none ↔ ∀ policy : Policy, text ≠ policy.name.toList :=
    fun _ => find?_name_eq_none_iff Policy.mem_all
  rw [refused_iff known, readPolicy]
  cases given? value with
  | none => simp
  | some text =>
      simp only [Option.some.injEq, exists_eq_left', policyNamed]
      cases Policy.ofName? text.trim.lower with
      | none => simp
      | some policy => simp

theorem readLogLevel_eq_error_iff {value : Option Text} :
    (∃ error, readLogLevel value = .error error) ↔ Refused LogLevel.name Text.upper value := by
  have known : ∀ text, LogLevel.ofName? text = none ↔ ∀ level : LogLevel, text ≠ level.name.toList :=
    fun _ => find?_name_eq_none_iff LogLevel.mem_all
  rw [refused_iff known, readLogLevel]
  cases given? value with
  | none => simp
  | some text =>
      simp only [Option.some.injEq, exists_eq_left']
      cases LogLevel.ofName? text.trim.upper with
      | none => simp
      | some level => simp

private theorem readPolicy_name (policy : Policy) : readPolicy (some policy.name.toList) = .ok policy := by
  have each : ∀ policy ∈ Policy.all, readPolicy (some policy.name.toList) = .ok policy := by decide +kernel
  exact each policy policy.mem_all

private theorem readLogLevel_name (level : LogLevel) : readLogLevel (some level.name.toList) = .ok level := by
  have each : ∀ level ∈ LogLevel.all, readLogLevel (some level.name.toList) = .ok level := by decide +kernel
  exact each level level.mem_all

/-! ### Extensions -/

/-- An extension with its dot, without the separator and without blanks around it. -/
structure NormalExtension (extension : Text) : Prop where
  dotted : extension.head? = some '.'
  unseparated : ',' ∉ extension
  trimmed : extension.Trimmed

private theorem normalExtension_dotted {text : Text} (present : text ≠ []) (unseparated : ',' ∉ text)
    (trimmed : text.Trimmed) : NormalExtension (dotted text) := by
  unfold dotted
  split
  · rename_i first
    exact ⟨eq_of_beq first, unseparated, trimmed⟩
  · refine ⟨rfl, ?_, ?_⟩
    · rw [List.mem_cons, not_or]
      exact ⟨by decide, unseparated⟩
    · rintro c (first | last)
      · rw [List.head?_cons, Option.some.injEq] at first
        rw [← first]
        decide
      · rw [List.getLast?_cons_of_ne_nil present] at last
        exact trimmed c (.inr last)

private theorem dotted_eq_self {extension : Text}
    (normal : NormalExtension extension) : dotted extension = extension := by
  rw [dotted, normal.dotted, if_pos (beq_self_eq_true _)]

private theorem normalExtension_defaultExtensions :
    ∀ extension ∈ defaultExtensions, NormalExtension extension := by
  have each : ∀ extension ∈ defaultExtensions,
      extension.head? = some '.' ∧ ',' ∉ extension ∧ extension.trim = extension := by
    decide +kernel
  intro extension member
  obtain ⟨dotted, unseparated, same⟩ := each extension member
  have trimmed := Text.trimmed_trim extension
  rw [same] at trimmed
  exact ⟨dotted, unseparated, trimmed⟩

private theorem readExtensions_normal (value : Option Text) :
    readExtensions value ≠ [] ∧ ∀ extension ∈ readExtensions value, NormalExtension extension := by
  have default : defaultExtensions ≠ [] ∧ ∀ extension ∈ defaultExtensions, NormalExtension extension :=
    ⟨List.cons_ne_nil _ _, normalExtension_defaultExtensions⟩
  unfold readExtensions
  split
  · exact default
  · split
    · exact default
    · rename_i text _ parts other
      refine ⟨fun empty => other (List.map_eq_nil_iff.mp empty), fun extension member => ?_⟩
      obtain ⟨part, listed, rfl⟩ := List.mem_map.mp member
      obtain ⟨listed, present⟩ := List.mem_filter.mp listed
      obtain ⟨piece, divided, rfl⟩ := List.mem_map.mp listed
      refine normalExtension_dotted (by simpa using present) (fun inside => ?_) (Text.trimmed_trim piece)
      exact Text.separator_notMem_of_mem_splitOn divided (Text.mem_of_mem_trim inside)

theorem readExtensions_intercalate {extensions : List Text} (present : extensions ≠ [])
    (normal : ∀ extension ∈ extensions, NormalExtension extension) :
    readExtensions (some ([','].intercalate extensions)) = extensions := by
  have divided : ([','].intercalate extensions).splitOn ',' = extensions :=
    List.splitOn_intercalate ',' (fun extension member => (normal extension member).unseparated) present
  have solid : ∀ extension ∈ extensions, extension ≠ [] := by
    rintro _ member rfl
    cases (normal [] member).dotted
  have written : [','].intercalate extensions ≠ [] := by
    intro empty
    rw [empty] at divided
    exact solid [] (by rw [← divided]; exact List.mem_singleton_self _) rfl
  have trimmed : extensions.map Text.trim = extensions := by
    rw [List.map_congr_left fun extension member => (normal extension member).trimmed.trim_eq, List.map_id']
  have kept : extensions.filter (!·.isEmpty) = extensions :=
    List.filter_eq_self.mpr fun extension member => by simpa using solid extension member
  have dots : extensions.map dotted = extensions := by
    rw [List.map_congr_left fun extension member => dotted_eq_self (normal extension member), List.map_id']
  rw [readExtensions, given?_eq_some_iff.mpr ⟨rfl, written⟩]
  simp only [divided, trimmed, kept]
  cases extensions with
  | nil => exact absurd rfl present
  | cons first rest => exact dots

/-! ### Whole configurations -/

def toEnvironment (config : Config) : Environment where
  onUnterminated := some config.policy.name.toList
  extensions := some ([','].intercalate config.extensions)
  backup := some (if config.backup then "true".toList else "false".toList)
  logLevel := some config.logLevel.name.toList

theorem load_eq_ok_iff {environment : Environment} {config : Config} :
    load environment = .ok config ↔
      readPolicy environment.onUnterminated = .ok config.policy ∧
        readLogLevel environment.logLevel = .ok config.logLevel ∧
        readExtensions environment.extensions = config.extensions ∧
        readSwitch environment.backup true = config.backup := by
  obtain ⟨policy, extensions, backup, logLevel⟩ := config
  unfold load
  cases readPolicy environment.onUnterminated with
  | error error => simp
  | ok chosen =>
      cases readLogLevel environment.logLevel with
      | error error => simp
      | ok level =>
          simp only [Except.ok.injEq, mk.injEq]
          constructor
          · rintro ⟨samePolicy, sameExtensions, sameBackup, sameLevel⟩
            exact ⟨samePolicy, sameLevel, sameExtensions, sameBackup⟩
          · rintro ⟨samePolicy, sameLevel, sameExtensions, sameBackup⟩
            exact ⟨samePolicy, sameExtensions, sameBackup, sameLevel⟩

theorem load_eq_error_iff {environment : Environment} :
    (∃ error, load environment = .error error) ↔
      Refused Policy.name Text.lower environment.onUnterminated ∨
        Refused LogLevel.name Text.upper environment.logLevel := by
  rw [← readPolicy_eq_error_iff, ← readLogLevel_eq_error_iff, load]
  cases readPolicy environment.onUnterminated with
  | error error => simp
  | ok policy =>
      cases readLogLevel environment.logLevel with
      | error error => simp
      | ok level => simp

private theorem readSwitch_printed (switch : Bool) :
    readSwitch (some (if switch then "true".toList else "false".toList)) true = switch := by
  cases switch <;> decide +kernel

theorem load_toEnvironment {config : Config} (present : config.extensions ≠ [])
    (normal : ∀ extension ∈ config.extensions, NormalExtension extension) :
    load config.toEnvironment = .ok config :=
  load_eq_ok_iff.mpr ⟨readPolicy_name config.policy, readLogLevel_name config.logLevel,
    readExtensions_intercalate present normal, readSwitch_printed config.backup⟩

/-- A loaded configuration is in normal form and is what its own printed form loads. Loading fails exactly on a
policy or a log level that is given under an unknown name; an empty value is an absent one, a blank one is not. -/
theorem load_normal_form (environment : Environment) :
    (∀ config, load environment = .ok config →
      config.extensions ≠ [] ∧ (∀ extension ∈ config.extensions, NormalExtension extension) ∧
      load config.toEnvironment = .ok config ∧
      (environment.onUnterminated.getD [] = [] → config.policy = .skip) ∧
      (environment.logLevel.getD [] = [] → config.logLevel = .warning)) ∧
    ((∃ error, load environment = .error error) ↔
      Refused Policy.name Text.lower environment.onUnterminated ∨
        Refused LogLevel.name Text.upper environment.logLevel) ∧
    ∀ text, text ≠ [] → (∀ c ∈ text, isBlank c = true) →
      environment.onUnterminated = some text ∨ environment.logLevel = some text →
      ∃ error, load environment = .error error := by
  refine ⟨fun config loaded => ?_, load_eq_error_iff, fun text present blank value => ?_⟩
  · obtain ⟨policy, level, extensions, _⟩ := load_eq_ok_iff.mp loaded
    obtain ⟨present, normal⟩ := readExtensions_normal environment.extensions
    rw [extensions] at present normal
    refine ⟨present, normal, load_toEnvironment present normal, fun empty => ?_, fun empty => ?_⟩
    · rw [readPolicy, given?_eq_none_of_empty empty] at policy
      exact (Except.ok.inj policy).symm
    · rw [readLogLevel, given?_eq_none_of_empty empty] at level
      exact (Except.ok.inj level).symm
  · rw [load_eq_error_iff]
    rcases value with given | given
    · rw [given]
      exact .inl (refused_of_blank present blank rfl fun policy => by cases policy <;> decide)
    · rw [given]
      exact .inr (refused_of_blank present blank rfl fun level => by cases level <;> decide)

/-- Blanks, a Kelvin sign for the letter, an extension without its dot, and an empty one. -/
def untidyEnvironment : Environment where
  onUnterminated := some "\tS\u212aip ".toList
  extensions := some "m , .h,, a.swift\u00a0".toList
  backup := some " Yes".toList
  logLevel := some "warn\n".toList

theorem load_normal_form_sample :
    load untidyEnvironment = .ok ⟨.skip, [".m".toList, ".h".toList, ".a.swift".toList], true, .warn⟩ ∧
      load (Config.toEnvironment ⟨.skip, [".m".toList, ".h".toList, ".a.swift".toList], true, .warn⟩) =
        .ok ⟨.skip, [".m".toList, ".h".toList, ".a.swift".toList], true, .warn⟩ ∧
      ¬ Refused LogLevel.name Text.upper untidyEnvironment.logLevel := by
  have loaded : load untidyEnvironment =
      .ok ⟨.skip, [".m".toList, ".h".toList, ".a.swift".toList], true, .warn⟩ := by
    decide +kernel
  obtain ⟨normal, failed, _⟩ := load_normal_form untidyEnvironment
  refine ⟨loaded, (normal _ loaded).2.2.1, fun refused => ?_⟩
  obtain ⟨error, stopped⟩ := failed.mpr (.inr refused)
  rw [loaded] at stopped
  cases stopped

end Config

end AlertMigration
