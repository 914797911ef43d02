import RwServer.Foundation.Separated

/-!
# Topics

The topic of a message says which gateway it comes from, of which device of the gateway, and whether
it brings health or points. `parseTopicMetadata` reads that off the segments of the topic. It takes
exactly the topics that its metadata gives when it is written out again, with or without a slash in
front and with any number of slashes behind (`parseTopicMetadata_eq_some_iff`).
-/

namespace RwServer

open Separated

inductive TopicResource
  | health | points
deriving DecidableEq, Repr

inductive TopicScope
  | gateway | device
deriving DecidableEq, Repr

/-- What a topic says. Its family is always `rockware`. -/
structure TopicMetadata where
  version : String
  gatewayId : String
  deviceId : Option String
  resource : TopicResource
  scope : TopicScope
deriving DecidableEq, Repr

/-! ## Reading -/

/-- The segments between the slashes, without the slashes at the end and one slash in front. -/
def topicSegments (topic : String) : List String :=
  let normalizedTopic := topic.toList.rdropWhile (· = '/')
  let topicWithoutLeadingSlash :=
    if normalizedTopic.head? = some '/' then normalizedTopic.tail else normalizedTopic
  (topicWithoutLeadingSlash.splitOn '/').map String.ofList

/-- The characters that `.` does not match. -/
def isLineBreak (c : Char) : Bool := c.toNat ∈ [0x0A, 0x0D, 0x2028, 0x2029]

/-- The group of `/^v(.+)$/`. -/
def versionOfToken? (versionToken : String) : Option String :=
  match versionToken.toList with
  | [] => none
  | c :: version =>
    if c = 'v' ∧ version ≠ [] ∧ version.all (!isLineBreak ·) then some (.ofList version)
    else none

namespace TopicResource

def text : TopicResource → String
  | health => "Health"
  | points => "Points"

def ofText? (segment : String) : Option TopicResource :=
  if segment = "Health" then some health else if segment = "Points" then some points else none

theorem ofText?_eq_some_iff {segment : String} {resource : TopicResource} :
    ofText? segment = some resource ↔ segment = resource.text := by
  unfold ofText?
  constructor
  · intro h
    split_ifs at h with hhealth hpoints
    · rw [← Option.some.inj h, hhealth, text]
    · rw [← Option.some.inj h, hpoints, text]
  · rintro rfl
    rcases resource with _ | _ <;> decide

end TopicResource

def parseTopicMetadata (topic : String) : Option TopicMetadata :=
  let segments := topicSegments topic
  if segments.length < 5 then none
  else if segments[0]? ≠ some "Rockware" ∨ segments[2]? ≠ some "Gateway" then none
  else
    (segments[1]?.bind versionOfToken?).bind fun version ↦
    segments[3]?.bind fun gatewayId ↦
    if gatewayId = "" then none
    else if segments.length = 5 ∧ segments[4]? = some "Health" then
      some ⟨version, gatewayId, none, .health, .gateway⟩
    else if segments.length = 7 ∧ segments[4]? = some "Device" then
      (segments[6]?.bind TopicResource.ofText?).bind fun resource ↦
      segments[5]?.bind fun deviceId ↦
      if deviceId = "" then none
      else some ⟨version, gatewayId, some deviceId, resource, .device⟩
    else none

/-! ## Writing -/

namespace TopicMetadata

/-- The segments of the topic of a gateway or a device. -/
def segments (m : TopicMetadata) : List String :=
  ["Rockware", "v" ++ m.version, "Gateway", m.gatewayId] ++
    match m.deviceId with
    | none => [m.resource.text]
    | some deviceId => ["Device", deviceId, m.resource.text]

/-- A segment that is there. -/
def IsSegment (segment : String) : Prop := segment ≠ "" ∧ '/' ∉ segment.toList

/-- A gateway tells of its health only; a device has an id. -/
structure WellFormed (m : TopicMetadata) : Prop where
  version : IsSegment m.version
  version_line : ∀ c ∈ m.version.toList, isLineBreak c = false
  gatewayId : IsSegment m.gatewayId
  source : m.scope = .gateway ∧ m.resource = .health ∧ m.deviceId = none ∨
    m.scope = .device ∧ ∃ deviceId, IsSegment deviceId ∧ m.deviceId = some deviceId

/-- The topic that the metadata gives. -/
def topic (m : TopicMetadata) : String :=
  .ofList (['/'].intercalate (m.segments.map String.toList))

end TopicMetadata

/-! ## What is taken -/

theorem versionOfToken?_eq_some_iff {versionToken version : String} :
    versionOfToken? versionToken = some version ↔ versionToken = "v" ++ version ∧ version ≠ "" ∧
      ∀ c ∈ version.toList, isLineBreak c = false := by
  have htoken : versionToken = "v" ++ version ↔ versionToken.toList = 'v' :: version.toList := by
    rw [← String.toList_inj, String.toList_append]
    rfl
  have hempty : version ≠ "" ↔ version.toList ≠ [] := by
    rw [Ne, ← String.toList_inj]
    rfl
  rw [htoken, hempty, versionOfToken?]
  rcases versionToken.toList with _ | ⟨c, token⟩
  · simp
  · constructor
    · intro h
      obtain ⟨hc, h⟩ := Option.ite_none_right_eq_some.mp h
      obtain rfl := Option.some.inj h
      rw [String.toList_ofList]
      refine ⟨congrArg (· :: token) hc.1, hc.2.1, fun c hmem ↦ ?_⟩
      exact (Bool.not_eq_true' _).mp (List.all_eq_true.mp hc.2.2 c hmem)
    · rintro ⟨heq, hne, hline⟩
      obtain ⟨rfl, rfl⟩ := List.cons.inj heq
      refine Option.ite_none_right_eq_some.mpr ⟨⟨rfl, hne, ?_⟩, congrArg some String.ofList_toList⟩
      exact List.all_eq_true.mpr fun c hc ↦ (Bool.not_eq_true' _).mpr (hline c hc)

/-- The segments of a topic have no slash. -/
theorem not_mem_of_mem_topicSegments {topic segment : String} (h : segment ∈ topicSegments topic) :
    '/' ∉ segment.toList := by
  obtain ⟨part, hpart, rfl⟩ := List.mem_map.mp h
  rw [String.toList_ofList]
  exact not_mem_of_mem_splitOn hpart

/-- **What the segments of a topic are.** -/
theorem topicSegments_eq_iff {topic first last : String} {segments : List String}
    (hslash : ∀ segment ∈ segments, '/' ∉ segment.toList) (hfirst : first ∈ segments.head?)
    (hlast : last ∈ segments.getLast?) (hfirst_ne : first ≠ "") (hlast_ne : last ≠ "") :
    topicSegments topic = segments ↔ ∃ lead n, (lead = [] ∨ lead = ['/']) ∧
      topic.toList = lead ++ ['/'].intercalate (segments.map String.toList) ++
        List.replicate n '/' := by
  have hempty : ∀ {text : String}, text ≠ "" → text.toList ≠ [] :=
    fun hne hnil ↦ hne (String.toList_inj.mp hnil)
  have hparts : ∀ part ∈ segments.map String.toList, '/' ∉ part := by
    intro part hpart
    obtain ⟨segment, hsegment, rfl⟩ := List.mem_map.mp hpart
    exact hslash segment hsegment
  have hhead : first.toList ∈ (segments.map String.toList).head? := by
    rw [List.head?_map]
    exact Option.mem_map_of_mem _ hfirst
  have hend : last.toList ∈ (segments.map String.toList).getLast? := by
    rw [List.getLast?_map]
    exact Option.mem_map_of_mem _ hlast
  have htexts : topicSegments topic = segments ↔
      (trim '/' topic.toList).splitOn '/' = segments.map String.toList := by
    constructor
    · rintro rfl
      refine (List.map_map.trans ?_).symm
      exact List.map_id'' (fun _ ↦ String.toList_ofList) _
    · intro h
      refine (congrArg (List.map String.ofList) h).trans (List.map_map.trans ?_)
      exact List.map_id'' (fun _ ↦ String.ofList_toList) segments
  rw [htexts, splitOn_trim_eq_iff hparts hhead hend (hempty hfirst_ne) (hempty hlast_ne)]

/-- **The parse of the segments.** -/
theorem parseTopicMetadata_eq_some_iff_segments {topic : String} {m : TopicMetadata} :
    parseTopicMetadata topic = some m ↔ topicSegments topic = m.segments ∧ m.WellFormed := by
  have hslash := @not_mem_of_mem_topicSegments topic
  rw [parseTopicMetadata]
  generalize topicSegments topic = segments at hslash ⊢
  constructor
  · intro h
    rcases segments with _ | ⟨family, _ | ⟨versionToken, _ | ⟨gateway, _ | ⟨gatewayId, _ |
      ⟨kind, rest⟩⟩⟩⟩⟩
    iterate 5 exact absurd h (by simp)
    obtain ⟨-, h⟩ := Option.ite_none_left_eq_some.mp h
    obtain ⟨hwords, h⟩ := Option.ite_none_left_eq_some.mp h
    obtain ⟨hfamily, hgateway⟩ := not_or.mp hwords
    obtain rfl : family = "Rockware" := Option.some.inj (not_not.mp hfamily)
    obtain rfl : gateway = "Gateway" := Option.some.inj (not_not.mp hgateway)
    obtain ⟨version, hversion, h⟩ := Option.bind_eq_some_iff.mp h
    obtain ⟨rfl, hversion_ne, hversion_line⟩ := versionOfToken?_eq_some_iff.mp hversion
    obtain ⟨hgatewayId, h⟩ := Option.ite_none_left_eq_some.mp h
    have hversion_slash : '/' ∉ version.toList := by
      intro hmem
      refine hslash (List.mem_cons_of_mem _ List.mem_cons_self) ?_
      rw [String.toList_append]
      exact List.mem_append_right _ hmem
    have hgatewayId_slash : '/' ∉ gatewayId.toList := hslash (by simp)
    by_cases hhealth : rest = [] ∧ kind = "Health"
    · -- the health of a gateway
      obtain ⟨rfl, rfl⟩ := hhealth
      obtain rfl := Option.some.inj h
      exact ⟨rfl, ⟨hversion_ne, hversion_slash⟩, hversion_line, ⟨hgatewayId, hgatewayId_slash⟩,
        .inl ⟨rfl, rfl, rfl⟩⟩
    · rw [if_neg (by simpa using hhealth)] at h
      obtain ⟨hdevice, h⟩ := Option.ite_none_right_eq_some.mp h
      obtain rfl : kind = "Device" := Option.some.inj hdevice.2
      obtain ⟨deviceId, resourceText, rfl⟩ := List.length_eq_two.mp (by simpa using hdevice.1)
      obtain ⟨resource, hresource, h⟩ := Option.bind_eq_some_iff.mp h
      obtain rfl := TopicResource.ofText?_eq_some_iff.mp hresource
      obtain ⟨hdeviceId, h⟩ := Option.ite_none_left_eq_some.mp h
      obtain rfl := Option.some.inj h
      exact ⟨rfl, ⟨hversion_ne, hversion_slash⟩, hversion_line, ⟨hgatewayId, hgatewayId_slash⟩,
        .inr ⟨rfl, deviceId, ⟨hdeviceId, hslash (by simp)⟩, rfl⟩⟩
  · rintro ⟨rfl, hm⟩
    have hversion := versionOfToken?_eq_some_iff.mpr ⟨rfl, hm.version.1, hm.version_line⟩
    obtain ⟨version, gatewayId, deviceId, resource, scope⟩ := m
    rcases hm.source with ⟨rfl, rfl, rfl⟩ | ⟨rfl, deviceId, hdeviceId, rfl⟩
    · refine (if_neg (by simp [TopicMetadata.segments])).trans ?_
      refine (if_neg (by simp [TopicMetadata.segments])).trans ?_
      refine Option.bind_eq_some_iff.mpr ⟨version, hversion, ?_⟩
      exact (if_neg hm.gatewayId.1).trans (if_pos ⟨rfl, rfl⟩)
    · have hresource := TopicResource.ofText?_eq_some_iff.mpr (rfl : resource.text = resource.text)
      refine (if_neg (by simp [TopicMetadata.segments])).trans ?_
      refine (if_neg (by simp [TopicMetadata.segments])).trans ?_
      refine Option.bind_eq_some_iff.mpr ⟨version, hversion, (if_neg hm.gatewayId.1).trans ?_⟩
      refine (if_neg (by simp [TopicMetadata.segments])).trans ((if_pos ⟨rfl, rfl⟩).trans ?_)
      exact Option.bind_eq_some_iff.mpr ⟨resource, hresource, if_neg hdeviceId.1⟩

namespace TopicMetadata

variable {m : TopicMetadata}

/-- The segments that are written can be told apart. -/
theorem WellFormed.not_mem_segments (hm : m.WellFormed) {segment : String}
    (h : segment ∈ m.segments) : '/' ∉ segment.toList := by
  have hversion : '/' ∉ ("v" ++ m.version).toList := by
    rw [String.toList_append]
    exact List.not_mem_append (by decide) hm.version.2
  have hresource : '/' ∉ m.resource.text.toList := by
    rcases m.resource with _ | _ <;> decide
  rw [segments] at h
  rcases List.mem_append.mp h with h | h
  · simp only [List.mem_cons, List.not_mem_nil, or_false] at h
    rcases h with rfl | rfl | rfl | rfl
    · decide
    · exact hversion
    · decide
    · exact hm.gatewayId.2
  · rcases hm.source with ⟨-, -, hnone⟩ | ⟨-, deviceId, hdeviceId, hsome⟩
    · rw [hnone, List.mem_singleton] at h
      exact h ▸ hresource
    · simp only [hsome, List.mem_cons, List.not_mem_nil, or_false] at h
      rcases h with rfl | rfl | rfl
      · decide
      · exact hdeviceId.2
      · exact hresource

theorem getLast?_segments (m : TopicMetadata) : m.segments.getLast? = some m.resource.text := by
  rw [segments]
  rcases m.deviceId with _ | deviceId <;> rfl

end TopicMetadata

/-- **What a topic gives.** The topics with metadata are those that the metadata gives when it is
written out, with or without a slash in front and with any number of them behind. -/
theorem topics_read_back (topic : String) (m : TopicMetadata) :
    parseTopicMetadata topic = some m ↔ m.WellFormed ∧ ∃ lead n, (lead = [] ∨ lead = ['/']) ∧
      topic.toList = lead ++ m.topic.toList ++ List.replicate n '/' := by
  rw [parseTopicMetadata_eq_some_iff_segments, and_comm]
  refine and_congr_right fun hm ↦ ?_
  have hresource : m.resource.text ≠ "" := by
    rcases m.resource with _ | _ <;> decide
  have hfirst : "Rockware" ∈ m.segments.head? := rfl
  rw [TopicMetadata.topic, String.toList_ofList]
  exact topicSegments_eq_iff (fun _ ↦ hm.not_mem_segments) hfirst m.getLast?_segments (by decide)
    hresource

example : parseTopicMetadata "/Rockware/v2026.02/Gateway/gw-2/Device/device-15/Points//" =
    some ⟨"2026.02", "gw-2", some "device-15", .points, .device⟩ := by decide +kernel

end RwServer
