import Gazette.Options
import Gazette.Proofs.Site.Registration

/-!
# What a retriever is made of

A retriever is made by a row of calls (`Retriever.Call`), each of which stands for some settings (`Setting`).
What `Retriever.ofCalls` gives is said without the drafts in between: the first setting that is refused decides
whether there is a retriever (`Setting.refusal?`), and if there is one, the last setting of each kind and key
decides what it holds (`Retriever.Follows`). Headers are told apart by their names in lower case, decoders by
the encodings in lower case without white space around them. Both are folds that remember one thing, the first
of its kind (`foldl_first`) or the last (`foldl_last`).
-/

namespace Gazette

/-! ## Folds with a memory -/

section Folds

variable {σ ι α : Type} {step : σ → ι → σ} (view : σ → Option α) (given : ι → Option α)

/-- A fold that keeps what it has holds what the first item gives. -/
theorem foldl_first (kept : ∀ s i, view (step s i) = (view s).or (given i)) (items : List ι) (s : σ) :
    view (items.foldl step s) = (view s).or (items.findSome? given) := by
  induction items generalizing s with
  | nil => exact (Option.or_none).symm
  | cons item items ih =>
    rw [List.foldl_cons, ih, kept, Option.or_assoc, List.findSome?_cons]
    cases given item <;> rfl

/-- A fold that takes what it is given holds what the last item gives. -/
theorem foldl_last {items : List ι} (taken : ∀ i ∈ items, ∀ s, view (step s i) = (given i).or (view s)) (s : σ) :
    view (items.foldl step s) = (items.filterMap given).getLast?.or (view s) := by
  induction items generalizing s with
  | nil => rfl
  | cons item items ih =>
    obtain ⟨first, others⟩ := List.forall_mem_cons.1 taken
    rw [List.foldl_cons, ih others, first, List.filterMap_cons]
    cases given item with
    | none => rfl
    | some a => rw [List.getLast?_cons]; cases (items.filterMap given).getLast? <;> rfl

end Folds

/-- `Headers.name?` gives the name in lower case. -/
theorem Headers.eq_asciiLower_of_name? {s key : String} (h : name? s = some key) : key = Text.asciiLower s := by
  simp only [name?] at h
  split at h
  · cases h
  · exact (Option.some.inj h).symm

/-! ## Settings -/

namespace Setting

/-- The failure of a setting that is refused: a header for what is no name or no value, a time limit for allowing
no time. -/
def refusal? : Setting → Option Failure
  | .header name value =>
    if (Headers.name? name).isNone then some (.refused "Header" (some (.badHeaderName name)))
    else if Headers.isValue value then none
    else some (.refused "Header" (some (.badHeaderValue (Text.asciiLower name))))
  | .decoder _ _ => none
  | .timeout nanoseconds => if nanoseconds = 0 then some (.refused "Timeout" (some .zeroTimeout)) else none

/-- The value that a setting gives to the header `key`, a name in lower case. -/
def valueAt? (key : String) : Setting → Option String
  | .header name value => if Text.asciiLower name = key then some value else none
  | _ => none

/-- The decoder that a setting gives to the encoding `key`, in lower case without white space around it. -/
def decoderAt? (key : String) : Setting → Option ContentDecoder
  | .decoder encoding d => if Text.asciiLower (Text.trim encoding) = key then some d else none
  | _ => none

/-- The time limit that a setting gives, in nanoseconds. -/
def limit? : Setting → Option Nat
  | .timeout nanoseconds => some nanoseconds
  | _ => none

end Setting

/-- The encoding of an answer in the form of the keys of `decoders`, the empty text if it is not told or cannot be
read. -/
def Response.encoding (response : Response) : String :=
  Text.asciiLower (Text.trim ((response.header? "content-encoding").getD ""))

namespace Retriever

namespace Draft

variable (d : Draft) (setting : Setting)

/-- The draft `d` with a setting that is not refused. -/
def put (d : Draft) : Setting → Draft
  | .header name value => { d with headers := d.headers.insert (Text.asciiLower name) value }
  | .decoder encoding decoder => { d with decoders := d.decoders.insert (Text.asciiLower (Text.trim encoding)) decoder }
  | .timeout nanoseconds => { d with timeout := some nanoseconds }

/-- `Draft.set` is `put`, or if the setting has a `refusal?`, that becomes the failure of the draft unless it has
one. -/
theorem set_eq : d.set setting =
    match setting.refusal? with
    | some failure => { d with failure := d.failure.or (some failure) }
    | none => d.put setting := by
  cases setting with
  | header name value =>
    cases known : Headers.name? name with
    | none => simp [set, Setting.refusal?, known, fail]
    | some key =>
      cases Headers.eq_asciiLower_of_name? known
      by_cases good : Headers.isValue value
      · simp [set, Setting.refusal?, known, good, put]
      · simp [set, Setting.refusal?, known, good, fail]
  | decoder encoding decoder => rfl
  | timeout nanoseconds =>
    by_cases zero : nanoseconds = 0
    · simp [set, Setting.refusal?, zero, fail]
    · simp [set, Setting.refusal?, zero, put]

/-- `Draft.set` keeps the first failure. -/
theorem failure_set : (d.set setting).failure = d.failure.or setting.refusal? := by
  rw [set_eq]
  cases setting.refusal? with
  | none => cases setting <;> exact Option.or_none.symm
  | some failure => rfl

variable {setting} (taken : setting.refusal? = none)
include taken

/-- `Draft.set` gives a header the value of `valueAt?`, if there is one, and keeps all other headers. -/
theorem headers_set (key : String) :
    (d.set setting).headers.get? key = (setting.valueAt? key).or (d.headers.get? key) := by
  rw [set_eq, taken]
  cases setting with
  | header name value =>
    simp only [put, Setting.valueAt?, Table.get?_insert, eq_comm (a := key)]
    split <;> rfl
  | decoder encoding decoder => rfl
  | timeout nanoseconds => rfl

/-- `Draft.set` gives an encoding the decoder of `decoderAt?`, if there is one, and keeps all other decoders. -/
theorem decoders_set (key : String) :
    (d.set setting).decoders.get? key = (setting.decoderAt? key).or (d.decoders.get? key) := by
  rw [set_eq, taken]
  cases setting with
  | header name value => rfl
  | decoder encoding decoder =>
    simp only [put, Setting.decoderAt?, Table.get?_insert, eq_comm (a := key)]
    split <;> rfl
  | timeout nanoseconds => rfl

/-- `Draft.set` takes the time limit of `limit?`, if there is one. -/
theorem timeout_set : (d.set setting).timeout = setting.limit?.or d.timeout := by
  rw [set_eq, taken]
  cases setting <;> rfl

end Draft

/-- `r.Follows settings`: the retriever `r` holds what the last setting of each kind and key says. -/
structure Follows (r : Retriever) (settings : List Setting) : Prop where
  /-- Of the headers of one name, in letters of either case, the last one is sent. -/
  headers : ∀ key, r.headers.get? key = (settings.filterMap (Setting.valueAt? key)).getLast?
  /-- The last time limit holds, or else the usual one. -/
  timeout : r.timeout = (settings.filterMap Setting.limit?).getLast?.getD Setting.usualTimeout
  /-- Of the decoders for one encoding the last one is used. -/
  decoders : ∀ key, r.decoders.get? key = (settings.filterMap (Setting.decoderAt? key)).getLast?

/-- The last decoder that is set for an encoding, `ContentDecoder.identity` if there is none. -/
def lastDecoder (settings : List Setting) (encoding : String) : ContentDecoder :=
  ((settings.filterMap (Setting.decoderAt? encoding)).getLast?).getD .identity

section Settings

variable {settings : List Setting}

/-- `Retriever.selectDecoder` takes the `lastDecoder` for the encoding of the answer. -/
theorem Follows.selectDecoder {r : Retriever} (h : r.Follows settings) {q : Query}
    {response : Response} (there : q.response = some response) :
    r.selectDecoder q = ({ q with decoder := some (lastDecoder settings response.encoding) }, none) := by
  rw [Retriever.selectDecoder, there]
  dsimp only
  rw [decoderFor, h.decoders]
  rfl

/-- The first `refusal?` among the settings is the failure of `ofSettings`. -/
theorem ofSettings_of_refusal {failure : Failure} (refused : settings.findSome? Setting.refusal? = some failure) :
    ofSettings settings = .error failure := by
  have first := foldl_first Draft.failure Setting.refusal? Draft.failure_set settings {}
  rw [refused, Option.none_or] at first
  rw [ofSettings, ofDraft, first]

/-- If no setting has a `refusal?`, `ofSettings` gives a retriever that `Follows` all of them. -/
theorem exists_ofSettings (taken : settings.findSome? Setting.refusal? = none) :
    ∃ r, ofSettings settings = .ok r ∧ r.Follows settings := by
  have first := foldl_first Draft.failure Setting.refusal? Draft.failure_set settings {}
  rw [taken, Option.none_or] at first
  have each := List.findSome?_eq_none_iff.1 taken
  refine ⟨_, by rw [ofSettings, ofDraft, first], ⟨fun key ↦ ?_, ?_, fun key ↦ ?_⟩⟩
  · have last := foldl_last (fun d : Draft ↦ d.headers.get? key) (Setting.valueAt? key)
      (fun setting mem d ↦ d.headers_set (each setting mem) key) {}
    exact last.trans Option.or_none
  · have last := foldl_last Draft.timeout Setting.limit? (fun setting mem d ↦ d.timeout_set (each setting mem)) {}
    exact congrArg (Option.getD · Setting.usualTimeout) (last.trans Option.or_none)
  · have last := foldl_last (fun d : Draft ↦ d.decoders.get? key) (Setting.decoderAt? key)
      (fun setting mem d ↦ d.decoders_set (each setting mem) key) {}
    exact last.trans Option.or_none

end Settings

/-! ## Calls -/

/-- A call that sets something of a retriever. Some calls stand for several settings. -/
inductive Call
  /-- A header. -/
  | header (name value : String)
  /-- The name under which requests are made. -/
  | userAgent (name : String)
  /-- Requests are made under the name of a browser on Linux. -/
  | linuxBrowser
  /-- What is accepted as an answer. -/
  | accept (types : String)
  /-- The encodings that are accepted. -/
  | acceptEncoding (encodings : String)
  /-- A decoder for the encoding of its own name. -/
  | decoder (d : ContentDecoder)
  /-- A decoder for an encoding. -/
  | compression (encoding : String) (d : ContentDecoder)
  /-- Packed answers are accepted and unpacked. -/
  | gzip
  /-- A connection of the caller's own, which is no matter of headers, decoders or time. -/
  | connection
  /-- A time limit in nanoseconds. -/
  | timeout (nanoseconds : Nat)
  /-- The usual time limit. -/
  | usualTimeout
  /-- Requests like those of a browser. -/
  | browser
  /-- Requests like those of a browser, without packed answers. -/
  | plainBrowser

/-- The settings that a call stands for, in their order. -/
def Call.settings : Call → List Setting
  | .header name value => [.header name value]
  | .userAgent name => [.userAgent name]
  | .linuxBrowser => [.userAgent Setting.linuxBrowser]
  | .accept types => [.accept types]
  | .acceptEncoding encodings => [.acceptEncoding encodings]
  | .decoder d => [.decoder d.name d]
  | .compression encoding d => [.decoder encoding d]
  | .gzip => Setting.gzip
  | .connection => []
  | .timeout nanoseconds => [.timeout nanoseconds]
  | .usualTimeout => [.timeout Setting.usualTimeout]
  | .browser => Setting.browser
  | .plainBrowser => Setting.plainBrowser

/-- The first `Setting.refusal?` among the settings of a call. -/
def Call.refusal? (call : Call) : Option Failure := call.settings.findSome? Setting.refusal?

/-- The settings of some calls, one call after the other. -/
def settingsOf (calls : List Call) : List Setting := calls.flatMap Call.settings

/-- The retriever of some calls: `ofSettings` of what they stand for. -/
def ofCalls (calls : List Call) : Except Failure Retriever := ofSettings (settingsOf calls)

/-- The first `Setting.refusal?` is that of the first call with a `Call.refusal?`. -/
theorem findSome?_settingsOf (calls : List Call) :
    (settingsOf calls).findSome? Setting.refusal? = calls.findSome? Call.refusal? := by
  induction calls with
  | nil => rfl
  | cons call calls ih =>
    have parts : settingsOf (call :: calls) = call.settings ++ settingsOf calls := rfl
    rw [parts, List.findSome?_append, ih, List.findSome?_cons, Call.refusal?]
    cases call.settings.findSome? Setting.refusal? <;> rfl

end Retriever

/-- The calls that options stand for. -/
def Options.calls (o : Options) : List Retriever.Call :=
  [.userAgent o.userAgent, .accept o.accept] ++ (o.headers.entries.map fun (name, value) ↦ .header name value) ++
    (if o.gzip then [.gzip] else []) ++ [.timeout (o.timeout * Setting.second)]

/-- `Options.settings` are those of `Options.calls`. -/
theorem Options.settings_eq (o : Options) : o.settings = Retriever.settingsOf o.calls := by
  have further : o.headers.entries.map (fun (name, value) ↦ Setting.header name value) =
      (o.headers.entries.map fun (name, value) ↦ Retriever.Call.header name value).flatMap
        Retriever.Call.settings := by
    rw [List.flatMap_map, List.map_eq_flatMap]
    rfl
  rw [settings, calls, Retriever.settingsOf, further]
  simp only [List.flatMap_append]
  cases o.gzip <;> rfl

namespace Retriever

section Laws

variable (calls : List Call)

/-- `ofCalls` fails exactly if a call has a `refusal?`, and with the first one. -/
theorem ofCalls_eq_error_iff {failure : Failure} :
    ofCalls calls = .error failure ↔ calls.findSome? Call.refusal? = some failure := by
  rw [← findSome?_settingsOf, ofCalls]
  cases first : (settingsOf calls).findSome? Setting.refusal? with
  | none =>
    obtain ⟨r, made, -⟩ := exists_ofSettings first
    simp [made]
  | some refusal => rw [ofSettings_of_refusal first, Except.error.injEq, Option.some.injEq]

/-- `ofCalls` gives a retriever exactly if no call has a `refusal?`. -/
theorem exists_ofCalls_iff : (∃ r, ofCalls calls = .ok r) ↔ ∀ call ∈ calls, call.refusal? = none := by
  rw [← List.findSome?_eq_none_iff, ← findSome?_settingsOf, ofCalls]
  cases first : (settingsOf calls).findSome? Setting.refusal? with
  | none =>
    obtain ⟨r, made, -⟩ := exists_ofSettings first
    exact ⟨fun _ ↦ rfl, fun _ ↦ ⟨r, made⟩⟩
  | some refusal => simp [ofSettings_of_refusal first]

variable {calls} in
/-- What `ofCalls` gives `Follows` the settings of the calls. -/
theorem follows_of_ofCalls {r : Retriever} (h : ofCalls calls = .ok r) : r.Follows (settingsOf calls) := by
  have taken := (exists_ofCalls_iff calls).1 ⟨r, h⟩
  rw [← List.findSome?_eq_none_iff, ← findSome?_settingsOf] at taken
  obtain ⟨r', made, follows⟩ := exists_ofSettings taken
  cases made.symm.trans h
  exact follows

theorem ofSettings_settings (o : Options) : ofSettings o.settings = ofCalls o.calls :=
  congrArg ofSettings o.settings_eq

/-- `Client.ofSettings` of the settings that options stand for has the retriever of `Options.calls` and all known
sites. -/
theorem client_ofSettings_clientSettings (o : Options) :
    Client.ofSettings o.clientSettings = (ofCalls o.calls).map (⟨·, .known, max o.capacity 1⟩) := by
  rw [← ofSettings_settings]
  simp only [Client.ofSettings, Options.clientSettings, Option.getD_none]
  cases ofSettings o.settings <;> rfl

/-- `ofCalls` gives a retriever unless a call has a `refusal?`, and then it fails with the first one. What the
retriever holds are the last values of the settings that its calls stand for, and it decodes an answer by the
`lastDecoder` for its encoding. A client of `Options` is made of the calls that these stand for. -/
theorem ofCalls_first_refusal_last_wins :
    (∀ failure, ofCalls calls = .error failure ↔ calls.findSome? Call.refusal? = some failure) ∧
    ((∃ r, ofCalls calls = .ok r) ↔ ∀ call ∈ calls, call.refusal? = none) ∧
    (∀ r, ofCalls calls = .ok r → r.Follows (settingsOf calls) ∧
      ∀ (q : Query) (response : Response), q.response = some response →
        r.selectDecoder q =
          ({ q with decoder := some (lastDecoder (settingsOf calls) response.encoding) }, none)) ∧
    ∀ o : Options, ofSettings o.settings = ofCalls o.calls ∧ o.headers.keys.Pairwise (· < ·) ∧
      Client.ofSettings o.clientSettings = (ofCalls o.calls).map (⟨·, .known, max o.capacity 1⟩) := by
  refine ⟨fun _ ↦ ofCalls_eq_error_iff calls, exists_ofCalls_iff calls, fun r made ↦ ?_,
    fun o ↦ ⟨ofSettings_settings o, o.headers.pairwise_keys, client_ofSettings_clientSettings o⟩⟩
  have follows := follows_of_ofCalls made
  exact ⟨follows, fun _ _ there ↦ follows.selectDecoder there⟩

end Laws

/-- Calls of which later ones set again what those of a browser set. -/
def changedMind : List Call :=
  [.browser, .header "USER-Agent" "reader", .timeout 500, .compression " GZIP" .identity,
    .timeout (3 * Setting.second)]

/-- An answer that is said to be packed. -/
def packedAnswer : Response := ⟨200, Table.empty.insert "content-encoding" "GZip ", some [0x3C]⟩

/-- In the retriever of `changedMind`, letters of either case are the same, and the later calls win. -/
theorem ofCalls_changedMind : ∃ r, ofCalls changedMind = .ok r ∧
    r.headers.get? "user-agent" = some "reader" ∧ r.timeout = 3000000000 ∧
    (r.selectDecoder { id := 0, rawUrl := "", response := some packedAnswer }).1.decoder = some .identity := by
  obtain ⟨-, made, holds, -⟩ := ofCalls_first_refusal_last_wins changedMind
  obtain ⟨r, h⟩ := made.2 (by decide +kernel)
  obtain ⟨follows, decodes⟩ := holds r h
  refine ⟨r, h, (follows.headers "user-agent").trans (by decide +kernel), follows.timeout.trans (by rfl), ?_⟩
  rw [decodes _ packedAnswer rfl]
  rfl

end Retriever

end Gazette
