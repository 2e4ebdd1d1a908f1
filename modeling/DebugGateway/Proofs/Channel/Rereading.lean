import DebugGateway.Proofs.Channel.Hosts

namespace DebugGateway

namespace Url

/-! ## What counts of a text -/

theorem Visible.not_blank {c : Char} (visible : Visible c) : Text.isBlank c = false := by
  obtain ⟨low, high⟩ := visible
  simp only [Text.isBlank, Bool.or_eq_false_iff, Bool.and_eq_false_iff, decide_eq_false_iff_not,
    beq_eq_false_iff_ne]
  omega

theorem Visible.not_control {c : Char} (visible : Visible c) : isControlOrSpace c = false := by
  simp only [isControlOrSpace, decide_eq_false_iff_not]
  exact Nat.not_le_of_lt visible.1

theorem Visible.not_passed {c : Char} (visible : Visible c) : isPassedOver c = false := by
  cases passed : isPassedOver c with
  | false => rfl
  | true =>
    simp only [isPassedOver, Bool.or_eq_true, decide_eq_true_eq] at passed
    rcases passed with (rfl | rfl) | rfl
    all_goals exact absurd visible.1 (by decide)

def ending (s : List Char) : List Char :=
  ((s.rdropWhile Text.isBlank).rdropWhile isControlOrSpace).filter fun c => !isPassedOver c

theorem filter_visible {s : List Char} (visible : ∀ c ∈ s, Visible c) :
    (s.filter fun c => !isPassedOver c) = s := by
  rw [List.filter_eq_self]
  intro c member
  simp [(visible c member).not_passed]

theorem ending_visible {s : List Char} (visible : ∀ c ∈ s, Visible c) : ending s = s := by
  rw [ending, Text.rdropWhile_kept fun c member => (visible c member).not_blank,
    Text.rdropWhile_kept fun c member => (visible c member).not_control, filter_visible visible]

theorem significant_trim (text : String) :
    significant (Text.trim text) =
      (Text.strip isControlOrSpace (Text.strip Text.isBlank text.toList)).filter
        fun c => !isPassedOver c := by
  rw [significant, Text.trim, String.toList_ofList]
  rfl

theorem significant_written {first : Char} {more : List Char}
    (visible : ∀ c ∈ first :: more, Visible c) (s : List Char) :
    significant (Text.trim (String.ofList (first :: more ++ s))) = first :: more ++ ending s := by
  rw [significant_trim, String.toList_ofList,
    Text.strip_append fun c member => (visible c member).not_blank,
    Text.strip_append fun c member => (visible c member).not_control, List.filter_append,
    filter_visible visible]
  rfl

theorem significant_subset (text : String) : significant (Text.trim text) ⊆ text.toList := by
  rw [significant_trim]
  intro c member
  exact Text.strip_subset _ _ (Text.strip_subset _ _ (List.mem_of_mem_filter member))

theorem scheme_subset {text rest : List Char} {scheme : String}
    (found : scheme? text = some (scheme, rest)) : rest ⊆ text := by
  simp only [scheme?, List.span_eq_takeWhile_dropWhile] at found
  split at found
  · rename_i c name tail shape
    obtain ⟨-, after⟩ := Prod.mk.inj shape
    split at found
    · cases found
      intro d member
      apply (List.dropWhile_sublist isSchemeChar).subset
      rw [after]
      exact List.mem_cons_of_mem ':' member
    · cases found
  · cases found

theorem fileUrl_scheme {scheme : String} {text : List Char} {url : Url}
    (read : fileUrl scheme text = .ok url) : url.scheme = scheme := by
  unfold fileUrl at read
  split at read
  · split at read
    · dsimp only at read
      split at read
      · cases read
        rfl
      · obtain ⟨host, -, rfl⟩ := map_eq_ok read
        rfl
    · cases read
      rfl
  · cases read
    rfl

theorem parse_hosted {text : String} {url : Url} (parsed : parse text = .ok url)
    (scheme : url.scheme = "tcp") (hosted : url.host.isSome) :
    ∃ s rest, s ⊆ significant text ∧ authority false s = .ok (url.host, url.port, rest) := by
  rw [parse] at parsed
  split at parsed
  · cases parsed
  · rename_i named rest found
    split at parsed
    · rename_i file
      rw [fileUrl_scheme parsed, file] at scheme
      exact absurd scheme (by decide)
    · split at parsed
      · rename_i special
        obtain ⟨parts, -, rfl⟩ := map_eq_ok parsed
        rw [show named = "tcp" from scheme] at special
        exact absurd special (by decide)
      · split at parsed
        · rename_i tail
          obtain ⟨⟨host, port, rest⟩, authority, rfl⟩ := map_eq_ok parsed
          refine ⟨tail, rest, fun c member => ?_, authority⟩
          apply scheme_subset found
          exact List.mem_cons_of_mem '/' (List.mem_cons_of_mem '/' member)
        · cases parsed
          cases hosted

end Url

namespace Channel

/-! ## Reading a URL of either kind -/

def afterScheme (text scheme : String) (s : List Char) : Except ChannelError Channel :=
  match Url.authority false (Url.ending s) with
  | .ok (host, port, rest) => ofUrl text { scheme, host, port, path := Url.pathAfterHost rest }
  | .error e => .error (.url e)

theorem parse_written {scheme : String} {first : Char} {more : List Char}
    (visible : ∀ c ∈ first :: more, Url.Visible c) (absent : first ≠ '/')
    (named : ∀ s, Url.scheme? (first :: more ++ s) = some (scheme, '/' :: '/' :: s))
    (hosted : scheme ≠ "file" ∧ Url.isSpecial scheme = false) (s : List Char) :
    ∃ text, parse (String.ofList (first :: more ++ s)) = afterScheme text scheme s := by
  have counts := Url.significant_written visible s
  have bare : Text.startsWith "/" (Text.trim (String.ofList (first :: more ++ s))) = false := by
    rw [Text.trim, String.toList_ofList]
    have kept := Text.strip_append (fun c member => (visible c member).not_blank) s
    rw [show Text.trimChars (first :: more ++ s) = _ from kept]
    simp [Text.startsWith, List.isPrefixOf, Ne.symm absent]
  refine ⟨Text.trim (String.ofList (first :: more ++ s)), ?_⟩
  rw [parse, bare, if_neg (by decide), Url.parse, counts, named]
  dsimp only
  rw [if_neg hosted.1, hosted.2, if_neg (by decide), afterScheme]
  cases reads : Url.authority false (Url.ending s) with
  | error e => simp [reads, Except.map]
  | ok parts => simp [reads, Except.map]

theorem parse_unix (path : String) :
    ∃ text, parse (unix path).text = afterScheme text "unix" path.toList := by
  have written : (unix path).text = String.ofList ('u' :: "nix://".toList ++ path.toList) := by
    apply String.toList_inj.mp
    simp only [text, String.toList_append, String.toList_ofList]
    rfl
  rw [written]
  exact parse_written (Url.visible_of_all (by decide)) (by decide) (fun _ => rfl) (by decide)
    path.toList

theorem tcp_toList (host : String) (port : Nat) : (tcp host port).text.toList =
    't' :: "cp://".toList ++ (host.toList ++ ':' :: Nat.toDigits 10 port) := by
  have digits : (toString port).toList = Nat.toDigits 10 port := by simp
  simp only [text, String.toList_append, digits, List.append_assoc]
  rfl

theorem parse_tcp (host : String) (port : Nat) :
    ∃ text, parse (tcp host port).text =
      afterScheme text "tcp" (host.toList ++ ':' :: Nat.toDigits 10 port) := by
  rw [← String.ofList_toList (s := (tcp host port).text), tcp_toList]
  exact parse_written (Url.visible_of_all (by decide)) (by decide) (fun _ => rfl) (by decide) _

/-! ## Socket files -/

def Legible : Channel → Prop
  | unix path => path.toList.head? = some '/' ∧ Url.Plain path.toList
  | tcp host _ => ':' ∉ host.toList

instance : DecidablePred Legible
  | unix path => inferInstanceAs (Decidable (path.toList.head? = some '/' ∧ Url.Plain path.toList))
  | tcp host _ => inferInstanceAs (Decidable (':' ∉ host.toList))

theorem unix_legible {path : String} {channel : Channel}
    (read : parse (unix path).text = .ok channel) : channel.Legible := by
  obtain ⟨whole, written⟩ := parse_unix path
  rw [written, afterScheme] at read
  split at read
  · rename_i host port rest _
    rw [ofUrl, if_pos rfl] at read
    dsimp only at read
    split at read
    · cases read
    · rename_i full
      cases read
      rcases Url.pathAfterHost_cases rest with empty | ⟨s, rooted⟩
      · exact absurd (by rw [empty]; rfl) full
      rw [rooted]
      refine ⟨?_, Url.rootedPath_plain s⟩
      rw [Url.rootedPath_toList]
      rfl
  · cases read

theorem unix_reread {path : String} (legible : (unix path).Legible) :
    parse (unix path).text = .ok (unix path) := by
  obtain ⟨begins, plain⟩ := legible
  obtain ⟨whole, written⟩ := parse_unix path
  have visible : ∀ c ∈ path.toList, Url.Visible c := fun c member =>
    Url.visible_of_unescaped (plain.characters c member)
  rw [written, afterScheme, Url.ending_visible visible]
  obtain ⟨rest, shape⟩ := List.head?_eq_some_iff.mp begins
  rw [shape] at plain
  rw [shape, Url.authority_rooted]
  have same : Url.pathAfterHost ('/' :: rest) = path := by
    rw [Url.pathAfterHost, Url.rootedPath_of_plain (Url.plain_unrooted plain), ← shape,
      String.ofList_toList]
  have full : path.isEmpty = false := by
    rw [← String.ofList_toList (s := path), shape]
    simp [String.isEmpty_eq_false_iff]
  simp [same, full, ofUrl]

/-! ## Ports -/

theorem ofUrl_tcp {text host : String} {port : Nat} {url : Url}
    (read : ofUrl text url = .ok (tcp host port)) :
    url.scheme = "tcp" ∧ url.port = some port ∧ isLoopbackHost host = true ∧
      ∃ name, url.host = some name ∧ withoutBrackets name = host := by
  rw [ofUrl] at read
  split at read
  · split at read
    · cases read
    · cases read
  · split at read
    · rename_i scheme
      split at read
      · cases read
      · rename_i name named
        split at read
        · cases read
        · rename_i number numbered
          dsimp only at read
          split at read
          · rename_i loopback
            cases read
            exact ⟨scheme, numbered, loopback, name, named, rfl⟩
          · cases read
    · cases read

theorem tcp_read {text host : String} {port : Nat} (read : parse text = .ok (tcp host port)) :
    isLoopbackHost host = true ∧ port ≤ Url.greatestPort ∧
      (':' ∈ host.toList → '[' ∈ text.toList) := by
  rw [parse] at read
  split at read
  · cases read
  · split at read
    · rename_i url parsed
      obtain ⟨scheme, numbered, loopback, name, named, rfl⟩ := ofUrl_tcp read
      obtain ⟨s, rest, inside, authority⟩ := Url.parse_hosted parsed scheme (by rw [named]; rfl)
      obtain ⟨hosts, ports⟩ := Url.authority_written authority
      refine ⟨loopback, ports port numbered, fun colon => ?_⟩
      obtain ⟨written, part, source⟩ := hosts name named
      rcases Url.bracket_or_no_colon source with bracket | none
      · exact Url.significant_subset text (inside (part bracket))
      · exact absurd (withoutBrackets_subset name colon) none
    · cases read

theorem no_brackets_of_loopback {host : String} (loopback : isLoopbackHost host = true) :
    '[' ∉ host.toList ∧ ']' ∉ host.toList := by
  rcases loopback_cases loopback with bare | address
  · constructor
    · intro member
      exact (bare '[' member).ne '[' (by decide) rfl
    · intro member
      exact (bare ']' member).ne ']' (by decide) rfl
  · have none (mark : Char) (other : mark ≠ ':' ∧ mark ≠ '.' ∧ Ipv6.hexDigit? mark = none) :
        mark ∉ host.toList := by
      intro member
      rcases Ipv6.mem_of_parse address mark member with colon | point | digit
      · exact other.1 colon
      · exact other.2.1 point
      · rw [other.2.2] at digit
        cases digit
    exact ⟨none '[' (by decide), none ']' (by decide)⟩

theorem bare_of_loopback {host : String} (loopback : isLoopbackHost host = true)
    (single : ':' ∉ host.toList) : host.toList ≠ [] ∧ ∀ c ∈ host.toList, Url.Bare c := by
  constructor
  · intro empty
    have none : host = "" := String.toList_inj.mp empty
    subst none
    exact absurd loopback (by decide)
  · rcases loopback_cases loopback with bare | address
    · exact bare
    · rw [Ipv6.parse_without_colon single] at address
      cases address

theorem tcp_reread {host : String} {port : Nat} (loopback : isLoopbackHost host = true)
    (small : port ≤ Url.greatestPort) (single : ':' ∉ host.toList) :
    parse (tcp host port).text = .ok (tcp host port) := by
  obtain ⟨whole, written⟩ := parse_tcp host port
  obtain ⟨full, bare⟩ := bare_of_loopback loopback single
  obtain ⟨opening, closing⟩ := no_brackets_of_loopback loopback
  have visible : ∀ c ∈ host.toList ++ ':' :: Nat.toDigits 10 port, Url.Visible c := by
    intro c member
    rcases List.mem_append.mp member with inHost | later
    · exact (bare c inHost).visible
    · rcases List.mem_cons.mp later with rfl | digit
      · decide
      · exact (Url.Bare.of_isDigit (Url.isDigit_of_mem_port digit)).visible
  rw [written, afterScheme, Url.ending_visible visible, Url.authority_port full bare small]
  simp [ofUrl, String.ofList_toList, withoutBrackets_free opening closing, loopback]

/-- A channel that was read from some text is read again from its URL just when it is legible. -/
theorem text_reread_iff {text : String} {channel : Channel} (read : parse text = .ok channel) :
    parse channel.text = .ok channel ↔ channel.Legible := by
  constructor
  · intro again
    cases channel with
    | unix path => exact unix_legible again
    | tcp host port =>
      intro colon
      obtain ⟨loopback, -, -⟩ := tcp_read read
      obtain ⟨-, -, bracketed⟩ := tcp_read again
      have bracket := bracketed colon
      rw [tcp_toList] at bracket
      rcases List.mem_append.mp bracket with scheme | later
      · exact absurd scheme (by decide)
      rcases List.mem_append.mp later with inHost | later
      · exact (no_brackets_of_loopback loopback).1 inHost
      rcases List.mem_cons.mp later with mark | digit
      · exact absurd mark (by decide)
      · exact Url.not_mem_port port (by decide) digit
  · intro legible
    cases channel with
    | unix path => exact unix_reread legible
    | tcp host port =>
      obtain ⟨loopback, small, -⟩ := tcp_read read
      exact tcp_reread loopback small legible

/-- Reading follows the path and drops the query, so that the channel is legible. -/
theorem query_reread :
    parse " unix:///run/x/../dbg%20bridge.sock?mode=rw" = .ok (unix "/run/dbg%20bridge.sock") ∧
      (unix "/run/dbg%20bridge.sock").Legible ∧
      parse (unix "/run/dbg%20bridge.sock").text = .ok (unix "/run/dbg%20bridge.sock") := by
  have read : parse " unix:///run/x/../dbg%20bridge.sock?mode=rw" =
      .ok (unix "/run/dbg%20bridge.sock") := by decide +kernel
  have legible : (unix "/run/dbg%20bridge.sock").Legible := by decide +kernel
  exact ⟨read, legible, (text_reread_iff read).mpr legible⟩

/-- The brackets around an address with colons are not written, and a path of its own is not escaped. -/
theorem illegible_not_reread :
    parse "tcp://[::1]:9780" = .ok (tcp "::1" 9780) ∧
      parse (tcp "::1" 9780).text = .error (.url .emptyHost) ∧
      parse "/run/dbg?x" = .ok (unix "/run/dbg?x") ∧
      parse (unix "/run/dbg?x").text = .ok (unix "/run/dbg") := by
  refine ⟨?_, ?_, ?_, ?_⟩
  all_goals decide +kernel

end Channel

end DebugGateway
