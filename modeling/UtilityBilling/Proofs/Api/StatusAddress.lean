/-
# Where the status of a task is asked for

The id of a task is put into the path of the status endpoint as one segment, and the path is put
behind the base url as text. Since a url is read as it is written, the address that comes out is on
the base url's site, below its path, and ends in that segment. Two ids are no segments: a dot and
two dots are encoded as they are, and mean the directory itself and the one above.
-/

import UtilityBilling.Proofs.Api.BaseUrl

namespace UtilityBilling.Api

open UtilityBilling.Text
open UtilityBilling.Url (Address Host Kept Settled IsSegmentChar encodeSegment addSegment)

variable {settings : Settings} {host : Host} {segments : List (List Char)} {text : List Char}

/-- The name of the tasks in paths. -/
def tasksName : List Char := ['t', 'a', 's', 'k', 's']

theorem settled_tasksName : Settled tasksName :=
  ⟨List.all_iff_forall_prop.mp (by decide), by decide, by decide⟩

/-- The address of the status of a task, by the segments of the base url's path. -/
def statusAddress (base : Address) (segments : List (List Char)) (taskId : String) : Address :=
  { base with
    path := .segments (addSegment .special (withoutTrailing segments ++ [tasksName]) false
      (encodeSegment taskId.toList)) }

/-- The path of the status endpoint for a task. -/
theorem statusPathOf_eq (template : settings.taskStatusPath = "/tasks/\x7bid\x7d")
    (taskId : String) :
    (settings.statusPathOf taskId).toList =
      '/' :: (tasksName ++ '/' :: encodeSegment taskId.toList) := by
  rw [Settings.statusPathOf, template, String.toList_ofList]
  exact congrArg (fun segment => '/' :: (tasksName ++ '/' :: segment)) (List.append_nil _)

/-- The characters of the path behind the base url. -/
theorem visible_status (segments : List (List Char))
    (settled : ∀ segment ∈ segments, Settled segment) (taskId : String) :
    ∀ c ∈ segments.flatMap ('/' :: ·) ++ '/' :: encodeSegment taskId.toList, 0x20 < c.toNat := by
  intro c within
  rcases List.mem_append.mp within with inPath | inSegment
  · exact Url.visible_of_settled settled c inPath
  · rcases List.mem_cons.mp inSegment with rfl | inside
    · decide
    · exact (Url.isSegmentChar_of_mem inside).visible

/-- The address at which the status of a task is asked for. -/
theorem endpointUrl_status (kept : Kept settings.baseUrl host segments)
    (noQuery : settings.baseUrl.query = none) (noFragment : settings.baseUrl.fragment = none)
    (template : settings.taskStatusPath = "/tasks/\x7bid\x7d") (taskId : String) :
    settings.endpointUrl (settings.statusPathOf taskId) [] =
      .ok (statusAddress settings.baseUrl segments taskId) := by
  have all : ∀ segment ∈ withoutTrailing segments ++ [tasksName], Settled segment := by
    intro segment member
    rcases List.mem_append.mp member with old | new
    · exact settled_withoutTrailing kept.settled segment old
    · exact List.mem_singleton.mp new ▸ settled_tasksName
  have visible := visible_status _ all taskId
  -- the text of the path, from its first slash on
  obtain ⟨rest, path⟩ : ∃ rest, (withoutTrailing segments ++ [tasksName]).flatMap ('/' :: ·) ++
      '/' :: encodeSegment taskId.toList = '/' :: rest := by
    cases withoutTrailing segments <;> exact ⟨_, rfl⟩
  have joined : settings.baseText ++ '/' :: (tasksName ++ '/' :: encodeSegment taskId.toList) =
      settings.baseUrl.scheme ++ ':' :: '/' :: '/' :: (settings.baseUrl.userText ++
        (host.text ++ Url.portText settings.baseUrl.port) ++ '/' :: rest) := by
    rw [baseText_eq kept noQuery noFragment, ← path, List.flatMap_append, List.flatMap_singleton]
    simp
  have parts : Url.readPathAfterHost .special ('/' :: rest) =
      (addSegment .special (withoutTrailing segments ++ [tasksName]) false
        (encodeSegment taskId.toList), []) := by
    rw [← path, Url.readPathAfterHost_append all,
      Url.readPath_last _ fun c => Url.isSegmentChar_of_mem]
  have read := kept.parse_path rest fun c within =>
    visible c (path ▸ List.mem_cons_of_mem _ within)
  have trimmed : ('/' :: (tasksName ++ '/' :: encodeSegment taskId.toList)).dropWhile (· == '/') =
      tasksName ++ '/' :: encodeSegment taskId.toList := rfl
  rw [Settings.endpointUrl, statusPathOf_eq template, Settings.addressOf, parse_slash]
  dsimp only
  rw [trimmed, joined, read, parts]
  exact congrArg Except.ok
    (withTail_nil (statusAddress settings.baseUrl segments taskId) noQuery noFragment)

section Address

variable (base : Address) (segments : List (List Char))

/-- An id other than dots is the last segment of its path, behind the name of the tasks. -/
theorem path_statusAddress {taskId : String} (noDot : taskId ≠ ".") (noDots : taskId ≠ "..") :
    (statusAddress base segments taskId).path =
      .segments (withoutTrailing segments ++ [tasksName, encodeSegment taskId.toList]) := by
  have settled : Settled (encodeSegment taskId.toList) := Url.settled_encodeSegment
    (fun same => noDot (String.toList_inj.mp (same.trans (by decide))))
    fun same => noDots (String.toList_inj.mp (same.trans (by decide)))
  rw [statusAddress, settled.addSegment, List.append_assoc]
  rfl

/-- A dot stands for the tasks themselves. -/
theorem path_statusAddress_dot :
    (statusAddress base segments ".").path =
      .segments (withoutTrailing segments ++ [tasksName, []]) := by
  have same : encodeSegment ".".toList = ['.'] := by decide
  rw [statusAddress, same, Url.addSegment_special, if_neg (by decide), if_pos (by decide),
    if_neg (by decide), List.append_assoc]
  rfl

/-- Two dots lead out of the tasks. -/
theorem path_statusAddress_dots :
    (statusAddress base segments "..").path = .segments (withoutTrailing segments ++ [[]]) := by
  have same : encodeSegment "..".toList = ['.', '.'] := by decide
  have above : Url.shorten Url.isDriveLetter (withoutTrailing segments ++ [tasksName]) =
      withoutTrailing segments := by
    rw [Url.shorten, List.getLast?_concat, if_neg (by decide), List.dropLast_concat]
  rw [statusAddress, same, Url.addSegment_special, if_pos (by decide), if_neg (by decide), above]

/-- The end of the path, and the ids for which it is this one. -/
theorem exists_end (taskId : String) : ∃ rest,
    (statusAddress base segments taskId).path = .segments (withoutTrailing segments ++ rest) ∧
      (rest = [tasksName, encodeSegment taskId.toList] ∨ (rest = [tasksName, []] ∧ taskId = ".") ∨
        (rest = [[]] ∧ taskId = "..")) := by
  by_cases dot : taskId = "."
  · exact ⟨_, dot ▸ path_statusAddress_dot base segments, .inr (.inl ⟨rfl, dot⟩)⟩
  · by_cases dots : taskId = ".."
    · exact ⟨_, dots ▸ path_statusAddress_dots base segments, .inr (.inr ⟨rfl, dots⟩)⟩
    · exact ⟨_, path_statusAddress base segments dot dots, .inl rfl⟩

/-- Different ids lead to different addresses. -/
theorem statusAddress_injective {first second : String} (firstSome : first ≠ "")
    (secondSome : second ≠ "")
    (same : statusAddress base segments first = statusAddress base segments second) :
    first = second := by
  have written {taskId : String} (some_ : taskId ≠ "") : encodeSegment taskId.toList ≠ [] :=
    fun empty => some_ (String.toList_eq_nil_iff.mp (Url.encodeText_eq_nil_iff.mp empty))
  obtain ⟨firstEnd, firstPath, firstIs⟩ := exists_end base segments first
  obtain ⟨secondEnd, secondPath, secondIs⟩ := exists_end base segments second
  have ends : firstEnd = secondEnd := by
    rw [same, secondPath, Url.Path.segments.injEq] at firstPath
    exact (List.append_cancel_left firstPath).symm
  subst ends
  rcases firstIs with rfl | ⟨rfl, rfl⟩ | ⟨rfl, rfl⟩
  · rcases secondIs with equal | ⟨equal, -⟩ | ⟨equal, -⟩
    · simp only [List.cons.injEq, and_true, true_and] at equal
      exact String.toList_inj.mp (Url.encodeSegment_injective equal)
    · simp only [List.cons.injEq, and_true, true_and] at equal
      exact absurd equal (written firstSome)
    · cases equal
  · rcases secondIs with equal | ⟨-, rfl⟩ | ⟨equal, -⟩
    · simp only [List.cons.injEq, and_true, true_and] at equal
      exact absurd equal.symm (written secondSome)
    · rfl
    · cases equal
  · rcases secondIs with equal | ⟨equal, -⟩ | ⟨-, rfl⟩
    · cases equal
    · cases equal
    · rfl

end Address

/-- The address is on the base url's site. -/
theorem sameOrigin_statusAddress {base : Address} (kept : Kept base host segments)
    (taskId : String) : SameOrigin (statusAddress base segments taskId) base :=
  sameOrigin_of_site kept.special kept.hosted ⟨rfl, rfl, rfl, rfl, rfl⟩

/-- A task id addresses its own status endpoint. Under every base url of the web without query
and fragment, the status of every task is asked for on the base url's origin, without query and
fragment, and different ids lead to different addresses. Below the base url's path stand the name of
the tasks and one more segment, which is decoded to the id; but for the dot and the two dots, which
lead to the tasks and to the base url instead. Labels of the host in ASCII form must be short enough
to be read again. -/
theorem status_addressed {typed : List Char} (parsed : Url.parse typed = .ok settings.baseUrl)
    (web : settings.baseUrl.scheme ∈ webSchemes) (noQuery : settings.baseUrl.query = none)
    (noFragment : settings.baseUrl.fragment = none)
    (short : ∀ host, settings.baseUrl.host = some host → host.HasShortLabels)
    (template : settings.taskStatusPath = "/tasks/\x7bid\x7d") :
    ∃ segments, settings.baseUrl.path = .segments segments ∧
      let before := withoutTrailing segments
      let url := statusAddress settings.baseUrl segments
      (∀ line state taskId, taskStatus settings line state taskId =
        sendAndRead settings line state Task.readStatus (.getJson (url taskId))) ∧
      (∀ taskId, SameOrigin (url taskId) settings.baseUrl ∧
        (url taskId).query = none ∧ (url taskId).fragment = none) ∧
      (∀ taskId, taskId ≠ "." → taskId ≠ ".." →
        (url taskId).path = .segments (before ++ [tasksName, encodeSegment taskId.toList])) ∧
      (∀ taskId : String,
        Url.decodeBytes (Utf8.encode (encodeSegment taskId.toList)) = bytesOf taskId) ∧
      (url ".").path = .segments (before ++ [tasksName, []]) ∧
      (url "..").path = .segments (before ++ [[]]) ∧
      ∀ first second, first ≠ "" → second ≠ "" → url first = url second → first = second := by
  obtain ⟨host, segments, hosted, path, kept⟩ := Url.exists_kept parsed (special_of_web web)
  have kept := kept (short host hosted)
  refine ⟨segments, path, fun line state taskId => ?_,
    fun taskId => ⟨sameOrigin_statusAddress kept taskId, noQuery, noFragment⟩,
    fun taskId => path_statusAddress _ _, fun taskId => Url.decodeBytes_encodeSegment _,
    path_statusAddress_dot _ _, path_statusAddress_dots _ _,
    fun first second => statusAddress_injective _ _⟩
  rw [taskStatus, getJson, endpointUrl_status kept noQuery noFragment template]

/-- Settings for a backend below a path. -/
def belowPath : Settings :=
  { baseUrl :=
      { scheme := ['h', 't', 't', 'p']
        host := some (.domain "backend.example".toList)
        path := .segments [['a', 'p', 'i'], []] } }

/-- A slash in an id does not divide its segment. -/
theorem status_addressed_slash :
    Url.parse "http://backend.example/api/".toList = .ok belowPath.baseUrl ∧
      let url := statusAddress belowPath.baseUrl [['a', 'p', 'i'], []] "a/b"
      (∀ line state, taskStatus belowPath line state "a/b" =
        sendAndRead belowPath line state Task.readStatus (.getJson url)) ∧
      SameOrigin url belowPath.baseUrl ∧
      url.path = .segments [['a', 'p', 'i'], tasksName, "a%2Fb".toList] := by
  have parsed : Url.parse "http://backend.example/api/".toList = .ok belowPath.baseUrl := by
    decide +kernel
  have short : ∀ host, belowPath.baseUrl.host = some host → host.HasShortLabels := by
    intro host same
    obtain rfl := Option.some.inj same
    unfold Host.HasShortLabels
    decide
  obtain ⟨segments, path, sent, site, below, -⟩ :=
    status_addressed parsed (by decide) rfl rfl short rfl
  obtain rfl := Url.Path.segments.inj path
  exact ⟨parsed, fun line state => sent line state "a/b", (site "a/b").1,
    below "a/b" (by decide) (by decide)⟩

/-- The id of two dots does not stand behind the name of the tasks: its status is asked for at the
base url itself. -/
theorem two_dots_not_addressed :
    (Call.taskStatus belowPath "..").address belowPath = .ok belowPath.baseUrl ∧
      ¬∃ segment, belowPath.baseUrl.path = .segments [['a', 'p', 'i'], tasksName, segment] := by
  refine ⟨by decide +kernel, ?_⟩
  rintro ⟨segment, same⟩
  have longer := congrArg List.length (Url.Path.segments.inj same)
  cases longer

end UtilityBilling.Api
