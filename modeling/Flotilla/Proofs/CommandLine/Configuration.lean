import Flotilla.CommandLine.Command
import Flotilla.Proofs.Text.Number

/-!
# The Environment as Options and as Settings

The four variables of a connection are read in two ways. A library call that is given nothing reads
them as settings: trimmed, and a blank one counts as not set. A command takes them for its options:
a variable that is set counts as given, as it is. Both come to the same settings where the variables
are plain, and nowhere else.

- `Settings.LoadsTo`: what settings are loaded, part by part.
- `CommandLine.Takes`: what a command without options of a connection takes for given.
- `PlainVariables`: no variable has blanks that the two ways treat differently.
- `CommandLine.loads_alike_iff`: the main result.
-/

namespace Flotilla

open Settings

/-- The variables of a connection are plain: the URL is not blank, and the timeout and the data
directory are neither empty nor have blanks around them. Any token will do. -/
structure PlainVariables (lookup : String → Option String) : Prop where
  url : ∀ text ∈ lookup urlVariable, Text.trim text ≠ ""
  timeout : ∀ text ∈ lookup timeoutVariable, text ≠ "" ∧ Text.trim text = text
  dataDir : ∀ text ∈ lookup dataDirVariable, text ≠ "" ∧ Text.trim text = text

/-! ## §1 The parts of settings -/

namespace Settings

variable {given : Given} {s : Surroundings} {settings : Settings}

/-- The token that is given, or set, or in the file of a data directory. -/
def tokenFor (given : Given) (s : Surroundings) (dataDir : String) :
    Except Error (Option String) :=
  match (given.token <|> valueOf s tokenVariable).bind Text.nonBlank? with
  | some token => .ok (some token)
  | none => readTokenFile (tokenPathIn dataDir) (s.find (tokenPathIn dataDir))

/-- Every part of the settings is what the given values and the surroundings come to. -/
structure LoadsTo (given : Given) (s : Surroundings) (settings : Settings) : Prop where
  dataDir : dataDirFor given s = .ok settings.dataDir
  url : readUrl ((given.apiUrl <|> valueOf s urlVariable).getD defaultUrl) = .ok settings.apiUrl
  timeout : readTimeout given.timeout (valueOf s timeoutVariable) = .ok settings.timeout
  token : tokenFor given s settings.dataDir = .ok settings.token

theorem bind_eq_ok {α β : Type} {x : Except Error α} {f : α → Except Error β} {b : β} :
    (x >>= f) = .ok b ↔ ∃ a, x = .ok a ∧ f a = .ok b := by
  cases x with
  | error e => simp [bind, Except.bind]
  | ok a => simp [bind, Except.bind]

theorem load_eq_bind (given : Given) (s : Surroundings) :
    load given s = (do
      let dataDir ← dataDirFor given s
      let url ← readUrl ((given.apiUrl <|> valueOf s urlVariable).getD defaultUrl)
      let timeout ← readTimeout given.timeout (valueOf s timeoutVariable)
      let token ← tokenFor given s dataDir
      return ⟨url, token, timeout, dataDir⟩) := by
  unfold load tokenFor
  cases (given.token <|> valueOf s tokenVariable).bind Text.nonBlank? with
  | none => rfl
  | some token => rfl

/-- Settings are loaded exactly if every part of them is. -/
theorem load_eq_ok : load given s = .ok settings ↔ LoadsTo given s settings := by
  rw [load_eq_bind]
  -- The do block is a chain of parts, and it succeeds exactly if each of them does.
  simp only [bind_eq_ok]
  constructor
  · rintro ⟨dataDir, hdir, url, hurl, timeout, htimeout, token, htoken, hsettings⟩
    cases hsettings
    exact ⟨hdir, hurl, htimeout, htoken⟩
  · rintro ⟨hdir, hurl, htimeout, htoken⟩
    exact ⟨_, hdir, _, hurl, _, htimeout, _, htoken, rfl⟩

/-! ## §2 Texts with blanks around them -/

/-- Blanks around a URL only matter to the wording of an error. -/
theorem readUrl_trim {text : String} {url : Url} :
    readUrl (Text.trim text) = .ok url ↔ readUrl text = .ok url := by
  unfold readUrl
  rw [Text.trim_trim]
  -- Both texts are read as the trimmed one; only a complaint shows the text as it is.
  cases Url.read (Text.trim text) with
  | error cause => simp
  | ok found =>
    by_cases hweb : Url.isWeb found.scheme = true <;> simp [hweb]

theorem trim_ne_empty_of_readUrl {text : String} {url : Url} (h : readUrl text = .ok url) :
    Text.trim text ≠ "" := by
  intro hblank
  rw [readUrl, hblank] at h
  cases h

/-- A text that is read as a number is a plain one. -/
theorem plain_of_numberBelow? {bound n : Nat} {text : String}
    (h : Text.numberBelow? bound text = some n) : text ≠ "" ∧ Text.trim text = text := by
  obtain ⟨hwrites, -⟩ := Text.numberBelow?_eq_some.mp h
  refine ⟨hwrites.ne_empty, String.toList_injective ?_⟩
  rw [Text.toList_trim]
  refine Text.trimChars_eq_self fun c hc => ?_
  -- Whatever is blank is neither a digit nor a plus sign.
  by_contra hblank
  refine hwrites.not_mem (c := c) ?_ ?_ hc
  · by_contra hdigit
    exact hblank (Text.isBlank_of_isDigit (by simpa using hdigit))
  · rintro rfl
    exact hblank rfl

theorem checkTimeout_eq_ok {text : String} {seconds : Option Nat} {n : Nat} :
    checkTimeout text seconds = .ok n ↔ seconds = some n ∧ 0 < n := by
  cases seconds with
  | none => simp [checkTimeout]
  | some m =>
    -- Zero is refused, whatever the text was.
    cases m with
    | zero => simp [checkTimeout]; omega
    | succ m => simp [checkTimeout]; omega

/-- What is left of a text by trimming is not trimmed again. -/
theorem nonBlank?_bind (text : String) :
    (Text.nonBlank? text).bind Text.nonBlank? = Text.nonBlank? text := by
  by_cases hblank : Text.trim text = "" <;> simp [Text.nonBlank?, hblank]

/-- A variable that is plain is read as it is. -/
theorem valueOf_of_plain {name : String}
    (h : ∀ text ∈ s.lookup name, text ≠ "" ∧ Text.trim text = text) :
    valueOf s name = s.lookup name := by
  unfold valueOf
  cases hset : s.lookup name with
  | none => rfl
  | some text =>
    obtain ⟨hsome, htrimmed⟩ := h text hset
    rw [Option.bind_some, Text.nonBlank?_eq_some, htrimmed]
    exact ⟨rfl, hsome⟩

/-- The path below a directory has a character that is not blank, the dot of the name. -/
theorem trim_below_ne_empty (dir : String) : Text.trim (below dir dataDirName) ≠ "" := by
  have hdot : '.' ∈ (below dir dataDirName).toList := by
    unfold below dataDirName
    split <;> simp
  rw [← String.toList_eq_nil_iff.ne, Text.toList_trim]
  exact List.ne_nil_of_mem (Text.mem_trimChars_of_mem hdot rfl)

end Settings

/-! ## §3 What a command takes -/

namespace CommandLine

variable {lookup : String → Option String} {args : List String} {command : Command} {given : Given}
  {s : Surroundings} {settings : Settings}

/-- What a command without options of a connection takes for given: the variables as they are. The
timeout has to be a number, and the data directory is not empty. -/
structure Takes (lookup : String → Option String) (given : Given) : Prop where
  url : given.apiUrl = lookup urlVariable
  token : given.token = lookup tokenVariable
  dataDir : given.dataDir = lookup dataDirVariable
  nonempty : given.dataDir ≠ some ""
  timeout : given.timeout.map some = (lookup timeoutVariable).map (Text.numberBelow? numberBound)

/-- The connection that options and the environment describe, part by part. -/
theorem connection?_eq_some {mentions : List Mention} :
    connection? lookup mentions = some given ↔
      given.apiUrl = (value? mentions "api-url" <|> lookup urlVariable) ∧
      given.token = (value? mentions "token" <|> lookup tokenVariable) ∧
      given.dataDir = (value? mentions "data-dir" <|> lookup dataDirVariable) ∧
      given.dataDir ≠ some "" ∧
      given.timeout.map some = (value? mentions "timeout" <|> lookup timeoutVariable).map
        (Text.numberBelow? numberBound) := by
  obtain ⟨apiUrl, token, dataDir, timeout⟩ := given
  unfold connection?
  generalize (value? mentions "data-dir" <|> lookup dataDirVariable) = dir
  by_cases hdir : dir = some ""
  · -- Then nothing is described, and no connection has this directory.
    simp only [hdir, guard, ne_eq, not_true_eq_false, if_false]
    refine iff_of_false (fun h => nomatch h) ?_
    rintro ⟨-, -, heq, hne, -⟩
    exact hne heq
  · cases (value? mentions "timeout" <|> lookup timeoutVariable) with
    | none =>
      simp only [guard, ne_eq, hdir, not_false_eq_true, if_true, Option.pure_def,
        Option.bind_eq_bind, Option.bind_some, Option.map_none, Option.map_eq_none_iff]
      grind
    | some text =>
      -- A timeout that is given has to be a number.
      cases htimeout : Text.numberBelow? numberBound text with
      | none => simp [guard, hdir, htimeout]
      | some n =>
        simp only [guard, ne_eq, hdir, not_false_eq_true, if_true, Option.pure_def,
          Option.bind_eq_bind, Option.bind_some, htimeout, Option.map_some,
          Option.map_eq_some_iff]
        grind

/-- Options that give no connection leave it to the variables. -/
theorem connection?_of_none {mentions : List Mention}
    (h : connection? (fun _ => none) mentions = some .none) :
    connection? lookup mentions = some given ↔ Takes lookup given := by
  rw [connection?_eq_some] at h ⊢
  -- Nothing is described only if none of the four options is mentioned.
  obtain ⟨hurl, htoken, hdir, -, htimeout⟩ :
      value? mentions "api-url" = none ∧ value? mentions "token" = none ∧
        value? mentions "data-dir" = none ∧ True ∧ value? mentions "timeout" = none := by
    simpa [Given.none, eq_comm] using h
  rw [hurl, htoken, hdir, htimeout]
  constructor
  · rintro ⟨hurl, htoken, hdir, hsome, htimeout⟩
    exact ⟨hurl, htoken, hdir, hsome, htimeout⟩
  · rintro ⟨hurl, htoken, hdir, hsome, htimeout⟩
    exact ⟨hurl, htoken, hdir, hsome, htimeout⟩

/-- What the arguments say is the same in every environment; it only matters to the connection. -/
theorem read_of_order {other : String → Option String} {before : Given}
    (hargs : read other args = .order before command) :
    ∃ mentions, connection? other mentions = some before ∧ ∀ lookup, read lookup args =
      (connection? lookup mentions).elim .wrong fun given => .order given command := by
  unfold read at hargs ⊢
  split at hargs
  · cases hargs
  · cases hargs
  · cases hargs
  next name rest hleading =>
  unfold readCommand at hargs ⊢
  split at hargs
  · -- A call for help is no order.
    split at hargs
    · unfold readHelp at hargs
      grind
    · cases hargs
  next own hown =>
  split at hargs
  · cases hargs
  · cases hargs
  · cases hargs
  next mentions hmentions =>
  split at hargs
  · next found hfound hcommand =>
    cases hargs
    -- The options were told apart from the command before any variable was looked at.
    refine ⟨mentions, hfound, fun lookup => ?_⟩
    rw [hcommand]
    cases connection? lookup mentions <;> rfl
  · cases hargs

/-- A command that gives no connection takes the variables for given. -/
theorem read_eq_order (hargs : read (fun _ => none) args = .order .none command) :
    (∃ other, read lookup args = .order given other) ↔ Takes lookup given := by
  obtain ⟨mentions, hnone, hread⟩ := read_of_order hargs
  rw [hread, ← connection?_of_none hnone]
  cases connection? lookup mentions with
  | none => simp
  | some found => simp

/-! ## §4 What is loaded by both -/

namespace Takes

/-- A timeout that is set is the number that its text writes. -/
theorem exists_timeout (h : Takes lookup given) {text : String}
    (hset : lookup timeoutVariable = some text) :
    ∃ n, given.timeout = some n ∧ Text.numberBelow? numberBound text = some n := by
  have htimeout := h.timeout
  rw [hset, Option.map_some, Option.map_eq_some_iff] at htimeout
  obtain ⟨n, hn, hread⟩ := htimeout
  exact ⟨n, hn, hread.symm⟩

theorem url_iff (h : Takes s.lookup given)
    (hurl : ∀ text ∈ s.lookup urlVariable, Text.trim text ≠ "") {url : Url} :
    readUrl ((given.apiUrl <|> valueOf s urlVariable).getD defaultUrl) = .ok url ↔
      readUrl ((Given.none.apiUrl <|> valueOf s urlVariable).getD defaultUrl) = .ok url := by
  rw [h.url]
  unfold valueOf
  cases hset : s.lookup urlVariable with
  | none => rfl
  | some text =>
    rw [Option.bind_some, Text.nonBlank?_eq_some.mpr ⟨rfl, hurl text hset⟩]
    exact readUrl_trim.symm

theorem timeout_iff (h : Takes s.lookup given)
    (htimeout : ∀ text ∈ s.lookup timeoutVariable, text ≠ "" ∧ Text.trim text = text) {n : Nat} :
    readTimeout given.timeout (valueOf s timeoutVariable) = .ok n ↔
      readTimeout Given.none.timeout (valueOf s timeoutVariable) = .ok n := by
  rw [valueOf_of_plain htimeout]
  cases hset : s.lookup timeoutVariable with
  | none =>
    have hnone : given.timeout = none := by simpa [hset] using h.timeout
    rw [hnone]
    rfl
  | some text =>
    -- The command has read the text as a number, and as settings it is read in the same way.
    obtain ⟨m, hgiven, hread⟩ := h.exists_timeout hset
    rw [hgiven]
    simp only [readTimeout, Given.none]
    rw [(htimeout text hset).2, hread, checkTimeout_eq_ok, checkTimeout_eq_ok]

theorem dataDirFor_eq (h : Takes s.lookup given)
    (hdir : ∀ text ∈ s.lookup dataDirVariable, text ≠ "" ∧ Text.trim text = text) :
    dataDirFor given s = dataDirFor .none s := by
  unfold dataDirFor
  -- The directory is the plain one of the variable, or none on either way.
  rw [h.dataDir, valueOf_of_plain hdir]
  cases s.lookup dataDirVariable <;> rfl

/-- A token comes to the same whether it is trimmed once or twice. -/
theorem tokenFor_eq (h : Takes s.lookup given) : tokenFor given s = tokenFor .none s := by
  have htoken : (s.lookup tokenVariable <|> valueOf s tokenVariable).bind Text.nonBlank? =
      (Given.none.token <|> valueOf s tokenVariable).bind Text.nonBlank? := by
    unfold valueOf Given.none
    cases s.lookup tokenVariable with
    | none => rfl
    | some text => simp [nonBlank?_bind]
  unfold tokenFor
  rw [h.token, htoken]

/-- Where the variables are plain, what a command takes for given comes to the same settings as
nothing given. -/
theorem loadsTo_iff (h : Takes s.lookup given) (hplain : PlainVariables s.lookup) :
    LoadsTo given s settings ↔ LoadsTo .none s settings := by
  have hdir := h.dataDirFor_eq hplain.dataDir
  have htoken := h.tokenFor_eq
  constructor
  · intro hloads
    exact ⟨hdir ▸ hloads.dataDir, (h.url_iff hplain.url).mp hloads.url,
      (h.timeout_iff hplain.timeout).mp hloads.timeout, htoken ▸ hloads.token⟩
  · intro hloads
    exact ⟨hdir ▸ hloads.dataDir, (h.url_iff hplain.url).mpr hloads.url,
      (h.timeout_iff hplain.timeout).mpr hloads.timeout, htoken ▸ hloads.token⟩

/-- Where both ways load the same settings, the variables are plain. -/
theorem plain_of_loadsTo (h : Takes s.lookup given) (hgiven : LoadsTo given s settings)
    (hnone : LoadsTo .none s settings) : PlainVariables s.lookup := by
  constructor
  case url =>
    intro text hset
    have hurl := hgiven.url
    rw [h.url, hset] at hurl
    exact trim_ne_empty_of_readUrl hurl
  case timeout =>
    intro text hset
    obtain ⟨_, -, hread⟩ := h.exists_timeout hset
    exact plain_of_numberBelow? hread
  case dataDir =>
    intro text hset
    -- The command took the text as it is for the directory, so the library call came to it too.
    have hsame : dataDirFor .none s = .ok text := by
      have hdir := hgiven.dataDir
      rw [dataDirFor, h.dataDir, hset] at hdir
      rw [hnone.dataDir, ← hdir]
      rfl
    rw [dataDirFor, valueOf, hset] at hsame
    cases hblank : Text.nonBlank? text with
    | none =>
      -- A blank variable leaves it to the home directory, and no directory below that is blank.
      rw [Option.bind_some, hblank] at hsame
      cases hhome : s.home with
      | none =>
        rw [hhome] at hsame
        cases hsame
      | some home =>
        rw [hhome] at hsame
        rw [Text.nonBlank?_eq_none, ← Except.ok.inj hsame] at hblank
        exact absurd hblank (trim_below_ne_empty home)
    | some dir =>
      rw [Option.bind_some, hblank] at hsame
      obtain ⟨hdir, hsome⟩ := Text.nonBlank?_eq_some.mp hblank
      have htrim : text = Text.trim text := (Except.ok.inj hsame).symm.trans hdir
      rw [← htrim] at hsome
      exact ⟨hsome, htrim.symm⟩

end Takes

/-- A timeout that settings are loaded from, and that is plain, is a number for an option too. -/
theorem exists_takes (hplain : PlainVariables s.lookup) (h : LoadsTo .none s settings) :
    ∃ given, Takes s.lookup given := by
  have hdir : s.lookup dataDirVariable ≠ some "" := fun hset => (hplain.dataDir "" hset).1 rfl
  have htimeout := h.timeout
  rw [valueOf_of_plain hplain.timeout] at htimeout
  cases hset : s.lookup timeoutVariable with
  | none => exact ⟨⟨_, _, _, none⟩, rfl, rfl, rfl, hdir, by rw [hset]; rfl⟩
  | some text =>
    rw [hset] at htimeout
    simp only [Given.none, readTimeout] at htimeout
    rw [checkTimeout_eq_ok, (hplain.timeout text hset).2] at htimeout
    refine ⟨⟨_, _, _, some settings.timeout⟩, rfl, rfl, rfl, hdir, ?_⟩
    rw [hset, Option.map_some, Option.map_some, htimeout.1]

/-! ## §5 Loading alike -/

/-- The command loads these settings. -/
def Loads (s : Surroundings) (args : List String) (settings : Settings) : Prop :=
  ∃ given command, read s.lookup args = .order given command ∧ load given s = .ok settings

/-- The command loads exactly the settings that a library call loads which is given nothing. -/
def LoadsAlike (s : Surroundings) (args : List String) : Prop :=
  ∀ settings, Loads s args settings ↔ load .none s = .ok settings

/-- **A command and a library call read the environment alike exactly where it is plain**, for all
surroundings and every command that is given no options of a connection. Where the URL is not blank,
and the timeout and the data directory are neither empty nor have blanks around them, the command
loads settings exactly if the library call does, and the same ones. Anywhere else no settings are
loaded by both, so that the two ways agree only where neither of them loads any. -/
theorem loads_alike_iff (s : Surroundings) {args : List String} {command : Command}
    (hargs : read (fun _ => none) args = .order .none command) :
    LoadsAlike s args ↔ PlainVariables s.lookup ∨
      ∀ settings, ¬Loads s args settings ∧ load .none s ≠ .ok settings := by
  have hloads : ∀ settings, Loads s args settings ↔
      ∃ given, Takes s.lookup given ∧ LoadsTo given s settings := by
    intro settings
    refine exists_congr fun given => ?_
    rw [exists_and_right, read_eq_order hargs, load_eq_ok]
  constructor
  · intro halike
    by_cases hany : ∃ settings, load .none s = .ok settings
    · obtain ⟨settings, hnone⟩ := hany
      obtain ⟨given, htakes, hgiven⟩ := (hloads settings).mp ((halike settings).mpr hnone)
      exact .inl (htakes.plain_of_loadsTo hgiven (load_eq_ok.mp hnone))
    · exact .inr fun settings =>
        ⟨fun h => hany ⟨settings, (halike settings).mp h⟩, fun h => hany ⟨settings, h⟩⟩
  · rintro (hplain | hnever) settings
    · rw [hloads, load_eq_ok]
      constructor
      · rintro ⟨given, htakes, hgiven⟩
        exact (htakes.loadsTo_iff hplain).mp hgiven
      · intro hnone
        obtain ⟨given, htakes⟩ := exists_takes hplain hnone
        exact ⟨given, htakes, (htakes.loadsTo_iff hplain).mpr hnone⟩
    · exact iff_of_false (hnever settings).1 (hnever settings).2

/-- Surroundings where only the timeout is set, with a blank before it and one behind it. -/
def spacedTimeout : Surroundings where
  lookup := fun name => if name = timeoutVariable then some " 5 " else none
  home := some "/home/op"
  find := fun _ => .nothing

/-- The settings that a library call loads there. -/
def spacedSettings : Settings where
  apiUrl := ⟨"http", some ⟨"", "", "127.0.0.1", some 8080⟩, .segments ["api"], none, none⟩
  token := none
  timeout := 5
  dataDir := "/home/op/.docklet"

/-- A library call takes the timeout with its blanks, and a command is refused. -/
theorem spaced_timeout_not_loads_alike :
    read (fun _ => none) ["nodes"] = .order .none (.nodes false) ∧
    load .none spacedTimeout = .ok spacedSettings ∧
    read spacedTimeout.lookup ["nodes"] = .wrong ∧
    ¬LoadsAlike spacedTimeout ["nodes"] := by
  have hargs : read (fun _ => none) ["nodes"] = .order .none (.nodes false) := by decide +kernel
  have hload : load .none spacedTimeout = .ok spacedSettings := by decide +kernel
  refine ⟨hargs, hload, by decide +kernel, ?_⟩
  rw [loads_alike_iff spacedTimeout hargs]
  rintro (hplain | hnever)
  · exact absurd (hplain.timeout " 5 " rfl).2 (by decide)
  · exact (hnever spacedSettings).2 hload

end CommandLine

end Flotilla
