import DebugGateway.Proofs.Config.Settings

namespace DebugGateway.Config

open Json

/-! ## The command line -/

namespace Arguments

theorem flagOf_mem {word : String} {flag : Flag} {value : Option String}
    (found : flagOf word = .ok (flag, value)) : flag ∈ flags := by
  unfold flagOf at found
  split at found
  · split at found
    split at found
    · rename_i known
      cases found
      exact List.mem_of_find?_eq_some known
    · split at found
      · cases found
      · cases found
  · split at found
    · rename_i known
      cases found
      exact List.mem_of_find?_eq_some known
    · split at found
      · cases found
      · cases found
  · cases found

theorem channelValue_eq_ok {text : String} {v : Value} (read : channelValue text = .ok v) :
    ∃ channel, Channel.parse text = .ok channel ∧ v = .object channel.toMembers := by
  rw [channelValue] at read
  split at read
  · rename_i channel parsed
    cases read
    exact ⟨channel, parsed, rfl⟩
  · cases read

theorem read_channel {flag : Flag} (known : flag ∈ flags) (named : flag.key = channelKey) :
    flag.read = channelValue := by
  simp only [flags, List.mem_cons, List.not_mem_nil, or_false] at known
  rcases known with rfl | rfl | rfl | rfl | rfl | rfl | rfl | rfl
  · exact absurd named (by decide)
  · rfl
  all_goals exact absurd named (by decide)

theorem setFlag_asked {flag : Flag} {value : String} {members more : Members}
    (known : flag ∈ flags) (asked : Asked members) (set : setFlag flag value members = .ok more) :
    Asked more := by
  rw [setFlag] at set
  split at set
  · cases set
  · rename_i new
    split at set
    · rename_i v read
      cases set
      apply asked.snoc
      · exact Option.not_isSome_iff_eq_none.mp new
      · intro named
        rw [read_channel known named] at read
        obtain ⟨channel, parsed, written⟩ := channelValue_eq_ok read
        exact ⟨value, channel, parsed, written⟩
    · cases set

theorem readWords_asked {words : List String} {members given : Members} (asked : Asked members)
    (read : readWords members words = .ok given) : Asked given := by
  fun_induction readWords members words with
  | case1 members =>
    cases read
    exact asked
  | case2 members =>
    cases read
    exact asked
  | case6 members word rest _ _ flag value found ih =>
    obtain ⟨more, set, read⟩ := bind_eq_ok read
    exact ih more (setFlag_asked (flagOf_mem found) asked set) read
  | case8 members word _ _ flag found value rest _ ih =>
    obtain ⟨more, set, read⟩ := bind_eq_ok read
    exact ih more (setFlag_asked (flagOf_mem found) asked set) read
  | _ => cases read

theorem parse_asked {words : List String} {given : Members} (read : parse words = .ok given) :
    Asked given := by
  have nothing : Asked [] := ⟨by simp, by simp⟩
  exact readWords_asked nothing read

end Arguments

/-! ## All layers -/

/-- What settings are put together from besides the command line: files, which the command line or a
variable may name, and variables. -/
def records (words : List String) (env : Environment) (files : Files) : List Members :=
  let given := match Arguments.parse words with
    | .ok members => members
    | .error _ => []
  let asked := (Members.get? "config_path" given).bind Value.asText?
  (Discovery.look files {} (Discovery.candidates asked env)).layers ++ [Variables.members env]

theorem ofUser_local (env : Environment) (user : String) :
    (ofUser env user).channel.isLocal = true := by
  show (Channel.ofUser env user).isLocal = true
  rw [Channel.ofUser]
  split <;> rfl

theorem load_of_layers {words : List String} {env : Environment} {user : String} {files : Files}
    {given : Members} {config : Config} (parsed : Arguments.parse words = .ok given)
    (found : (Discovery.look files {} (Discovery.candidates
      ((Members.get? "config_path" given).bind Value.asText?) env)).failures = [])
    (made : ofLayers (ofUser env user) ((Discovery.look files {} (Discovery.candidates
        ((Members.get? "config_path" given).bind Value.asText?) env)).layers ++
      [Variables.members env, given].filter (!·.isEmpty)) = .ok config) :
    load words env user files = .ok config := by
  unfold load
  rw [parsed]
  dsimp only
  rw [made, found]
  rfl

theorem load_local {words : List String} {env : Environment} {user : String} {files : Files}
    {config : Config} (loaded : load words env user files = .ok config)
    (silent : ∀ layer ∈ records words env files, Members.get? channelKey layer = none) :
    config.channel.isLocal = true := by
  have above : ∀ layer ∈ records words env files, Silent layer :=
    fun layer member => silent_iff.mpr (silent layer member)
  unfold load at loaded
  unfold records at above
  cases parsed : Arguments.parse words with
  | error message =>
    rw [parsed] at loaded
    dsimp only at loaded
    split at loaded
    · rename_i errors
      cases errors
    · cases loaded
    · cases loaded
  | ok given =>
    rw [parsed] at loaded above
    dsimp only at loaded above
    split at loaded
    · rename_i made _
      cases loaded
      rw [show [Variables.members env, given] = [Variables.members env] ++ [given] from rfl,
        List.filter_append, ← List.append_assoc] at made
      refine ofLayers_local ?_ (Arguments.parse_asked parsed) (ofUser_local env user) made
      intro layer member
      rcases List.mem_append.mp member with file | set
      · exact above layer (List.mem_append_left _ file)
      · exact above layer (List.mem_append_right _ (List.mem_of_mem_filter set))
    · cases loaded
    · cases loaded

/-! ## A host without files -/

theorem walk_bare {follow : Bool} {links : Nat} {rest names : List String} {place : Place}
    (walked : ({} : Files).walk follow links rest names = .ok place) :
    ∀ content, place.node ≠ some (.file content) := by
  have get (names : List String) (content : String) :
      ({} : Files).get? names ≠ some (.file content) := by
    rw [Files.get?]
    split <;> simp
  fun_induction Files.walk {} follow links rest names with
  | case1 =>
    cases walked
    exact get _
  | case2 | case3 | case9 | case10 =>
    rename_i ih
    exact ih walked
  | _ =>
    cases walked
    all_goals exact nofun

theorem stat_bare (path content : String) : ({} : Files).stat true path ≠ .ok (.file content) := by
  intro found
  rw [Files.stat] at found
  obtain ⟨place, at_, found⟩ := bind_eq_ok found
  rw [Files.find] at at_
  split at at_
  · cases at_
  · split at at_
    · cases at_
    · split at at_
      · cases at_
      · cases walked : ({} : Files).walk true Files.linkLimit (Files.names path)
            (if Text.startsWith "/" path then [] else ({} : Files).here) with
        | error e =>
          rw [walked] at at_
          cases at_
        | ok end_ =>
          rw [walked] at at_
          cases at_
          split at found
          · rename_i node reached
            cases found
            exact walk_bare walked content reached
          · cases found

theorem look_bare (found : Discovery.Found) {candidates : List Discovery.Candidate}
    (optional : ∀ candidate ∈ candidates, candidate.required = false) :
    Discovery.look {} found candidates = found := by
  induction candidates with
  | nil => rfl
  | cons candidate candidates ih =>
    rw [Discovery.look]
    split
    · rename_i content found
      exact absurd found (stat_bare candidate.path content)
    · rw [optional candidate List.mem_cons_self, if_neg (by decide)]
      exact ih fun other member => optional other (List.mem_cons_of_mem _ member)

/-! ## Where channels come from -/

/-- Where a channel can come from. If it is read from a text it is local, and so it is if neither a file
nor a variable sets the channel, whatever the command line says. A record in JSON, which is what files
and variables come to, can give the channel that settings start with and every one whose port fits. -/
theorem channels_accepted (start : Config) (channel : Channel) :
    (∀ text, Channel.parse text = .ok channel → channel.isLocal = true) ∧
      (∀ words env user files config, load words env user files = .ok config →
        (∀ layer ∈ records words env files, Members.get? channelKey layer = none) →
        config.channel = channel → channel.isLocal = true) ∧
      ((∃ text config, start.parse text = .ok config ∧ config.channel = channel) ↔
        channel = start.channel ∨ channel.Fits) := by
  refine ⟨?_, ?_, ?_⟩
  · intro text read
    exact (Channel.parse_fits read).2
  · rintro words env user files config loaded silent rfl
    exact load_local loaded silent
  · constructor
    · rintro ⟨text, config, parsed, rfl⟩
      exact parse_channel parsed
    · rintro (rfl | fits)
      · exact ⟨_, start, parse_nothing start, rfl⟩
      · exact ⟨_, _, parse_channel_only start fits, rfl⟩

/-- A command line that sets the channel, and a variable that sets something else. -/
def askedFor : Members := [(channelKey, .object (Channel.tcp "::1" 9780).toMembers)]

def quietVariables : Environment := [("DBGBRIDGE_LOG_FILTER", "debug")]

theorem asked_for_local :
    load ["-c", "tcp://[::1]:9780"] quietVariables "7" {} =
        .ok { channel := .tcp "::1" 9780, logFilter := "debug" } ∧
      (Channel.tcp "::1" 9780).isLocal = true := by
  have parsed : Arguments.parse ["-c", "tcp://[::1]:9780"] = .ok askedFor := by rfl
  have unnamed : (Members.get? "config_path" askedFor).bind Value.asText? = none := by rfl
  have optional : ∀ candidate ∈ Discovery.candidates none quietVariables,
      candidate.required = false := by decide +kernel
  have set : Variables.members quietVariables = [("log_filter", .text "debug")] := by rfl
  have made : (ofLayers (ofUser quietVariables "7")
      ([[("log_filter", .text "debug")], askedFor].filter (!·.isEmpty))).toOption =
      some { channel := .tcp "::1" 9780, logFilter := "debug" } := by decide +kernel
  have loaded : load ["-c", "tcp://[::1]:9780"] quietVariables "7" {} =
      .ok { channel := .tcp "::1" 9780, logFilter := "debug" } := by
    cases read : ofLayers (ofUser quietVariables "7")
        ([[("log_filter", .text "debug")], askedFor].filter (!·.isEmpty)) with
    | error e =>
      rw [read] at made
      cases made
    | ok config =>
      rw [read] at made
      cases made
      apply load_of_layers parsed
      · rw [unnamed, look_bare {} optional]
        rfl
      · rw [unnamed, look_bare {} optional, set]
        exact read
  refine ⟨loaded, (channels_accepted (ofUser quietVariables "7") _).2.1 _ _ _ _ _ loaded ?_ rfl⟩
  unfold records
  rw [parsed]
  dsimp only
  rw [unnamed, look_bare {} optional, set]
  decide

theorem open_host_accepted :
    ∃ config, (ofUser [] "7").parse
        "\x7b\"channel\":\x7b\"transport\":\"tcp\",\"host\":\"0.0.0.0\",\"port\":9780\x7d\x7d" =
      .ok config ∧ config.channel = .tcp "0.0.0.0" 9780 ∧ config.channel.isLocal = false := by
  have written : (Value.object [(channelKey, .object (Channel.tcp "0.0.0.0" 9780).toMembers)]).compact =
      "\x7b\"channel\":\x7b\"transport\":\"tcp\",\"host\":\"0.0.0.0\",\"port\":9780\x7d\x7d" := by
    decide +kernel
  have fits : (Channel.tcp "0.0.0.0" 9780).Fits := by
    show 9780 ≤ 65535
    decide
  rw [← written]
  exact ⟨_, parse_channel_only _ fits, rfl, by decide⟩

end DebugGateway.Config
