import Colloquy.Proofs.Text.Trim
import Colloquy.Settings.Resolved

/-!
# Layers of settings

Settings come in layers: the command line above the environment, the environment above the settings
file, and defaults below. A layer gives a setting or leaves it to the layers below. Each setting is
that of the highest layer that gives it, so that nothing below this layer matters, and what is said
about one setting matters to no other one.
-/

namespace Colloquy

namespace Settings

/-- The settings by name. -/
inductive Field where
  | baseUrl
  | timeoutSeconds
  | token
  | sessionDirectory
  | postId
  | postAuthor
  | placement
  deriving DecidableEq

namespace Field

/-- The values of a setting. Some settings can be without a value in the end. -/
def Value : Field → Type
  | baseUrl => String
  | timeoutSeconds => Nat
  | token | sessionDirectory | postAuthor => Option String
  | postId => UInt64
  | placement => Placement

/-- The value of a setting. -/
def of (settings : Settings) : (field : Field) → field.Value
  | baseUrl => settings.baseUrl
  | timeoutSeconds => settings.timeoutSeconds
  | token => settings.token
  | sessionDirectory => settings.sessionDirectory
  | postId => settings.postId
  | postAuthor => settings.postAuthor
  | placement => settings.placement

/-- Settings are told apart by the values of single settings. -/
theorem eq_of_forall_of_eq {settings other : Settings}
    (same : ∀ field : Field, field.of settings = field.of other) : settings = other := by
  cases settings
  cases other
  rw [Settings.mk.injEq]
  exact ⟨same baseUrl, same timeoutSeconds, same token, same sessionDirectory, same postId,
    same postAuthor, same placement⟩

/-- The variable of the environment that gives a setting. -/
def variableName? : Field → Option String
  | baseUrl => some "THREADLINE_BASE_URL"
  | token => some "THREADLINE_AUTH_TOKEN"
  | postId => some "THREADLINE_POST_ID"
  | timeoutSeconds | sessionDirectory | postAuthor | placement => none

/-- The value of a setting that nobody gives, in somebody's home. -/
def byDefault (home : Option String) : (field : Field) → field.Value
  | baseUrl => defaultBaseUrl
  | timeoutSeconds => defaultTimeoutSeconds
  | token | postAuthor => none
  | sessionDirectory => home.map defaultSessionDirectory
  | postId => defaultPostId
  | placement => Placement.newestLast

end Field

/-- The layers of settings. -/
inductive Layer where
  | commandLine
  | environment
  | file
  | default
  deriving DecidableEq

/-- The layers above a layer. -/
def Layer.above : Layer → List Layer
  | commandLine => []
  | environment => [commandLine]
  | file => [commandLine, environment]
  | default => [commandLine, environment, file]

end Settings

open Settings (Field Layer)

/-! ## What a layer gives -/

namespace CommandLine

/-- What a command line gives for a setting. -/
def given (commandLine : CommandLine) : (field : Field) → Option field.Value
  | .baseUrl => commandLine.baseUrl
  | .postId => commandLine.postId
  | .postAuthor => commandLine.postAuthor.map some
  | .timeoutSeconds | .token | .sessionDirectory | .placement => none

/-- A command line that says about one setting what another one says. -/
def adopt (commandLine other : CommandLine) : Field → CommandLine
  | .baseUrl => { commandLine with baseUrl := other.baseUrl }
  | .postId => { commandLine with postId := other.postId }
  | .postAuthor => { commandLine with postAuthor := other.postAuthor }
  | .timeoutSeconds | .token | .sessionDirectory | .placement => commandLine

variable (commandLine other : CommandLine) {field kept : Field}

theorem given_adopt_self (field : Field) :
    (commandLine.adopt other field).given field = other.given field := by
  cases field <;> rfl

theorem given_adopt_of_ne (apart : kept ≠ field) :
    (commandLine.adopt other field).given kept = commandLine.given kept := by
  cases field <;> cases kept <;> first | rfl | contradiction

end CommandLine

namespace Environment

/-- What an environment gives for a setting. The id of the post is given only if it can be read. -/
def given (environment : Environment) : (field : Field) → Option field.Value
  | .baseUrl => environment "THREADLINE_BASE_URL"
  | .token => (environment "THREADLINE_AUTH_TOKEN").map some
  | .postId => (environment "THREADLINE_POST_ID").bind Settings.postIdOfText?
  | .timeoutSeconds | .sessionDirectory | .postAuthor | .placement => none

/-- An environment that says about one setting what another one says. -/
def adopt (environment other : Environment) (field : Field) : Environment :=
  fun name => if field.variableName? = some name then other name else environment name

/-- An environment without a variable. -/
def without (environment : Environment) (removed : String) : Environment :=
  fun name => if name = removed then none else environment name

variable (environment other : Environment) {field kept : Field}

theorem given_adopt_self (field : Field) :
    (environment.adopt other field).given field = other.given field := by
  cases field <;> rfl

theorem given_adopt_of_ne (apart : kept ≠ field) :
    (environment.adopt other field).given kept = environment.given kept := by
  cases field <;> cases kept <;> first | rfl | contradiction

end Environment

namespace FileSettings

/-- What a settings file gives for a setting. -/
def given (file : FileSettings) : (field : Field) → Option field.Value
  | .baseUrl => file.baseUrl
  | .timeoutSeconds => file.timeoutSeconds
  | .token => file.token.map some
  | .sessionDirectory => file.sessionDirectory.map some
  | .postId => file.postId
  | .postAuthor => file.postAuthor.map some
  | .placement => file.placement

/-- A settings file that says about one setting what another one says. -/
def adopt (file other : FileSettings) : Field → FileSettings
  | .baseUrl => { file with baseUrl := other.baseUrl }
  | .timeoutSeconds => { file with timeoutSeconds := other.timeoutSeconds }
  | .token => { file with token := other.token }
  | .sessionDirectory => { file with sessionDirectory := other.sessionDirectory }
  | .postId => { file with postId := other.postId }
  | .postAuthor => { file with postAuthor := other.postAuthor }
  | .placement => { file with placement := other.placement }

variable (file other : FileSettings) {field kept : Field}

theorem given_adopt_self (field : Field) :
    (file.adopt other field).given field = other.given field := by
  cases field <;> rfl

theorem given_adopt_of_ne (apart : kept ≠ field) :
    (file.adopt other field).given kept = file.given kept := by
  cases field <;> cases kept <;> first | rfl | contradiction

end FileSettings

namespace Settings

/-- What settings are decided from. -/
structure Sources where
  file : FileSettings
  commandLine : CommandLine
  environment : Environment
  /-- The home of whoever runs the program. -/
  home : Option String

namespace Sources

/-- The settings that are decided. -/
def settings (sources : Sources) : Settings :=
  resolve sources.file sources.commandLine sources.environment sources.home

/-- What a layer gives for a setting. -/
def given (sources : Sources) (field : Field) : Layer → Option field.Value
  | .commandLine => sources.commandLine.given field
  | .environment => sources.environment.given field
  | .file => sources.file.given field
  | .default => some (field.byDefault sources.home)

/-- Sources of which one layer says about one setting what it says in other sources. -/
def adopt (sources other : Sources) (field : Field) : Layer → Sources
  | .commandLine =>
      { sources with commandLine := sources.commandLine.adopt other.commandLine field }
  | .environment =>
      { sources with environment := sources.environment.adopt other.environment field }
  | .file => { sources with file := sources.file.adopt other.file field }
  | .default =>
      { sources with home := if field = .sessionDirectory then other.home else sources.home }

variable {sources other : Sources} {field kept : Field} {layer : Layer}

/-- A layer decides about a setting: it gives the setting and no layer above does. -/
def Decides (sources : Sources) (field : Field) (layer : Layer) : Prop :=
  (sources.given field layer).isSome ∧ ∀ higher ∈ layer.above, sources.given field higher = none

/-! ## The highest layer decides -/

/-- The value of a setting is the first that a layer gives, from the highest layer down. -/
theorem some_of_settings (sources : Sources) (field : Field) :
    some (field.of sources.settings) =
      (((sources.given field .commandLine).or (sources.given field .environment)).or
        (sources.given field .file)).or (sources.given field .default) := by
  rw [given, given, given, given, Option.or_some]
  have through {α : Type} (first second last : Option α) :
      ((first.map some).or (second.map some)).getD last = (first.or second).or last := by
    cases first <;> cases second <;> rfl
  cases field with
  | token => exact congrArg some ((through _ _ none).trans Option.or_none).symm
  | sessionDirectory => exact congrArg some (through none _ _).symm
  | postAuthor =>
      change some (sources.commandLine.postAuthor.or sources.file.postAuthor) =
        some ((((sources.commandLine.postAuthor.map some).or none).or
          (sources.file.postAuthor.map some)).getD none)
      rw [Option.or_none, through, Option.or_none]
  | baseUrl | timeoutSeconds | postId | placement => rfl

/-- For each setting there is one layer that decides. -/
theorem exists_decides (sources : Sources) (field : Field) :
    ∃ layer, ∀ other, sources.Decides field other ↔ other = layer := by
  have last : sources.given field .default = some (field.byDefault sources.home) := rfl
  cases first : sources.given field .commandLine with
  | some value =>
      refine ⟨.commandLine, fun other => ?_⟩
      cases other <;> simp [Decides, Layer.above, first]
  | none =>
      cases second : sources.given field .environment with
      | some value =>
          refine ⟨.environment, fun other => ?_⟩
          cases other <;> simp [Decides, Layer.above, first, second]
      | none =>
          cases third : sources.given field .file with
          | some value =>
              refine ⟨.file, fun other => ?_⟩
              cases other <;> simp [Decides, Layer.above, first, second, third]
          | none =>
              refine ⟨.default, fun other => ?_⟩
              cases other <;> simp [Decides, Layer.above, first, second, third, last]

/-- The setting is what the layer gives that decides. -/
theorem Decides.given_eq (decides : sources.Decides field layer) :
    sources.given field layer = some (field.of sources.settings) := by
  obtain ⟨gives, silent⟩ := decides
  obtain ⟨value, gives⟩ := Option.isSome_iff_exists.mp gives
  rw [some_of_settings]
  cases layer <;> simp only [Layer.above, List.forall_mem_cons] at silent <;> simp [gives, silent]

/-- Sources that agree down to the layer that decides agree about the setting. -/
theorem Decides.of_settings_eq (decides : sources.Decides field layer)
    (agree : ∀ shared ∈ layer :: layer.above,
      other.given field shared = sources.given field shared) :
    field.of other.settings = field.of sources.settings := by
  obtain ⟨same, silent⟩ := List.forall_mem_cons.mp agree
  have alike : other.Decides field layer :=
    ⟨same ▸ decides.1, fun higher above => (silent higher above).trans (decides.2 higher above)⟩
  exact Option.some.inj (alike.given_eq.symm.trans (same.trans decides.given_eq))

/-- Sources that agree about everything lead to the same settings. -/
theorem settings_congr
    (agree : ∀ field layer, other.given field layer = sources.given field layer) :
    other.settings = sources.settings := by
  apply Field.eq_of_forall_of_eq
  intro field
  obtain ⟨layer, decides⟩ := sources.exists_decides field
  exact ((decides layer).mpr rfl).of_settings_eq fun shared _ => agree field shared

/-! ## Layers that change -/

theorem given_adopt_self (sources other : Sources) (field : Field) (layer : Layer) :
    (sources.adopt other field layer).given field layer = other.given field layer := by
  cases layer with
  | commandLine => exact sources.commandLine.given_adopt_self other.commandLine field
  | environment => exact sources.environment.given_adopt_self other.environment field
  | file => exact sources.file.given_adopt_self other.file field
  | default => cases field <;> rfl

theorem given_adopt_of_ne (other : Sources) (apart : kept ≠ field) (changed place : Layer) :
    (sources.adopt other field changed).given kept place = sources.given kept place := by
  cases changed with
  | commandLine =>
      cases place with
      | commandLine => exact sources.commandLine.given_adopt_of_ne other.commandLine apart
      | environment | file | default => rfl
  | environment =>
      cases place with
      | environment => exact sources.environment.given_adopt_of_ne other.environment apart
      | commandLine | file | default => rfl
  | file =>
      cases place with
      | file => exact sources.file.given_adopt_of_ne other.file apart
      | commandLine | environment | default => rfl
  | default =>
      cases place with
      | default => cases field <;> cases kept <;> first | rfl | contradiction
      | commandLine | environment | file => rfl

/-- What a layer says about one setting matters to no other one. -/
theorem of_settings_adopt (other : Sources) (apart : kept ≠ field) (layer : Layer) :
    kept.of (sources.adopt other field layer).settings = kept.of sources.settings := by
  obtain ⟨place, decides⟩ := sources.exists_decides kept
  exact ((decides place).mpr rfl).of_settings_eq fun shared _ =>
    given_adopt_of_ne other apart layer shared

end Sources

/-! ## The id of a post in the environment -/

/-- A text writes the id of a post: decimal digits, perhaps behind a plus, with blanks around. -/
def WritesPostId (text : String) (id : UInt64) : Prop :=
  ∃ (core : String) (digits : List Char), Text.Strips text core ∧
    (core.toList = digits ∨ core.toList = '+' :: digits) ∧ digits ≠ [] ∧
      (∀ digit ∈ digits, digit.isDigit = true) ∧ Nat.ofDigitChars 10 digits 0 = id.toNat

theorem numberOfDigits?_eq_some_iff {digits : List Char} {value : Nat} :
    numberOfDigits? digits = some value ↔
      digits ≠ [] ∧ (∀ digit ∈ digits, digit.isDigit = true) ∧
        Nat.ofDigitChars 10 digits 0 = value := by
  have same : digits.foldl (fun value digit => value * 10 + (digit.toNat - '0'.toNat)) 0 =
      Nat.ofDigitChars 10 digits 0 := by
    simp only [Nat.ofDigitChars_eq_foldl, Nat.mul_comm 10]
  rw [numberOfDigits?, same]
  by_cases none : digits = []
  · simp [none]
  · simp [none]

/-- A number is the id of a post if 64 bits hold it. -/
theorem ofDigits_eq_some_iff {digits : List Char} {id : UInt64} :
    ((numberOfDigits? digits).bind fun value =>
        if value < UInt64.size then some value.toUInt64 else none) = some id ↔
      numberOfDigits? digits = some id.toNat := by
  cases numberOfDigits? digits with
  | none => simp
  | some value =>
      have small := id.toNat_lt_size
      simp only [Option.bind_some, Option.ite_none_right_eq_some, Option.some.injEq]
      constructor
      · rintro ⟨fits, rfl⟩
        exact (UInt64.toNat_ofNat_of_lt' fits).symm
      · rintro rfl
        exact ⟨small, UInt64.ofNat_toNat⟩

theorem postIdOfText?_eq_some_iff {text : String} {id : UInt64} :
    postIdOfText? text = some id ↔ WritesPostId text id := by
  have core : WritesPostId text id ↔ ∃ digits : List Char,
      ((Text.trim text).toList = digits ∨ (Text.trim text).toList = '+' :: digits) ∧
        digits ≠ [] ∧ (∀ digit ∈ digits, digit.isDigit = true) ∧
          Nat.ofDigitChars 10 digits 0 = id.toNat := by
    simp only [WritesPostId, ← Text.trim_eq_iff, exists_and_left, exists_eq_left']
  rw [core, postIdOfText?]
  generalize (Text.trim text).toList = characters
  simp only [Option.bind_eq_bind]
  rw [ofDigits_eq_some_iff, numberOfDigits?_eq_some_iff]
  split
  next digits =>
    constructor
    · intro digital
      exact ⟨digits, .inr rfl, digital⟩
    · rintro ⟨others, rfl | same, present, all, value⟩
      · exact absurd (all '+' List.mem_cons_self) (by decide)
      · obtain rfl := (List.cons.inj same).2
        exact ⟨present, all, value⟩
  next unsigned =>
    constructor
    · intro digital
      exact ⟨characters, .inl rfl, digital⟩
    · rintro ⟨digits, rfl | signed, digital⟩
      · exact digital
      · exact absurd signed (unsigned digits)

/-- An id that cannot be read is as good as none. -/
theorem Sources.settings_of_unreadable {sources : Sources} {text : String}
    (given : sources.environment "THREADLINE_POST_ID" = some text)
    (unreadable : ∀ id, ¬WritesPostId text id) :
    settings { sources with environment := sources.environment.without "THREADLINE_POST_ID" } =
      sources.settings := by
  have unread : postIdOfText? text = none :=
    Option.eq_none_iff_forall_ne_some.mpr fun id read =>
      unreadable id (postIdOfText?_eq_some_iff.mp read)
  apply settings_congr
  intro field layer
  cases layer with
  | environment =>
      cases field with
      | postId =>
          change none = (sources.environment "THREADLINE_POST_ID").bind postIdOfText?
          rw [given, Option.bind_some, unread]
      | _ => rfl
  | commandLine | file | default => rfl

/-! ## Settings in layers -/

/-- Each setting has one layer that decides, the highest that gives the setting. Its value is what
this layer gives, and the same in all sources that agree about the setting down to this layer. The
environment gives the id of a post only if its text writes one, and an id that cannot be read is as
good as none. A layer that says something else about a setting changes no other setting. -/
theorem decided_in_layers (sources : Sources) (field : Field) :
    (∃ layer, (∀ other, sources.Decides field other ↔ other = layer) ∧
      sources.given field layer = some (field.of sources.settings) ∧
      ∀ other : Sources,
        (∀ shared ∈ layer :: layer.above, other.given field shared = sources.given field shared) →
          field.of other.settings = field.of sources.settings) ∧
    (∀ text, sources.environment "THREADLINE_POST_ID" = some text →
      (∀ id : UInt64, sources.given .postId .environment = some id ↔ WritesPostId text id) ∧
      ((∀ id, ¬WritesPostId text id) →
        Sources.settings
            { sources with environment := sources.environment.without "THREADLINE_POST_ID" } =
          sources.settings)) ∧
    ∀ (other : Sources) (layer : Layer),
      (sources.adopt other field layer).given field layer = other.given field layer ∧
        ∀ kept, kept ≠ field →
          kept.of (sources.adopt other field layer).settings = kept.of sources.settings := by
  refine ⟨?_, fun text given => ⟨fun id => ?_, Sources.settings_of_unreadable given⟩,
    fun other layer => ⟨Sources.given_adopt_self .., fun kept apart => ?_⟩⟩
  · obtain ⟨layer, unique⟩ := sources.exists_decides field
    have decides := (unique layer).mpr rfl
    exact ⟨layer, unique, decides.given_eq, fun other => decides.of_settings_eq⟩
  · have read : sources.given .postId .environment = postIdOfText? text := by
      change (sources.environment "THREADLINE_POST_ID").bind postIdOfText? = postIdOfText? text
      rw [given, Option.bind_some]
    rw [read]
    exact postIdOfText?_eq_some_iff
  · exact Sources.of_settings_adopt other apart layer

/-- A post that the environment names, over another one in the settings file. -/
def overridden : Sources where
  file := { postId := some 42, baseUrl := some "http://config" }
  commandLine := {}
  environment := fun name => if name = "THREADLINE_POST_ID" then some " +7\n" else none
  home := none

/-- The id in the environment is one too great for 64 bits. -/
def unreadable : Sources :=
  { overridden with
    environment := fun name =>
      if name = "THREADLINE_POST_ID" then some "18446744073709551616" else none }

theorem decided_overridden :
    let lower : Sources :=
      { overridden with file := { postId := some 9 }, home := some "/home/ada" }
    overridden.Decides .postId .environment ∧ lower.settings.postId = 7 ∧
      (∀ id, ¬WritesPostId "18446744073709551616" id) ∧
      Sources.settings
          { unreadable with environment := unreadable.environment.without "THREADLINE_POST_ID" } =
        unreadable.settings ∧
      (overridden.adopt lower .postId .file).settings.baseUrl = "http://config" := by
  intro lower
  obtain ⟨⟨layer, unique, -, agree⟩, -, changes⟩ := decided_in_layers overridden .postId
  have decides : overridden.Decides .postId .environment := by
    have gives : (overridden.given .postId .environment).isSome := by decide +kernel
    have silent : ∀ higher ∈ Layer.above .environment, overridden.given .postId higher = none := by
      intro higher above
      obtain rfl := List.mem_singleton.mp above
      rfl
    exact ⟨gives, silent⟩
  obtain rfl := (unique .environment).mp decides
  have same : Field.postId.of lower.settings = Field.postId.of overridden.settings := by
    apply agree
    intro shared above
    cases shared with
    | commandLine | environment => rfl
    | file | default => exact absurd above (by decide)
  have seven : overridden.settings.postId = 7 := by decide +kernel
  have unread (id : UInt64) : ¬WritesPostId "18446744073709551616" id := by
    intro written
    have read : postIdOfText? "18446744073709551616" = none := by decide +kernel
    rw [postIdOfText?_eq_some_iff.mpr written] at read
    contradiction
  refine ⟨decides, Eq.trans same seven, unread, ?_, ?_⟩
  · exact ((decided_in_layers unreadable .postId).2.1 _ rfl).2 unread
  · have kept : (overridden.adopt lower .postId .file).settings.baseUrl =
        overridden.settings.baseUrl := (changes lower .file).2 .baseUrl (by decide)
    exact kept.trans (by decide +kernel)

end Settings

end Colloquy
