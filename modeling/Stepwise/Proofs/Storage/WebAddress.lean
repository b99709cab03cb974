import Stepwise.Proofs.Text.Runs
import Stepwise.Storage.WebStore

/-!
# Addresses of objects

What a service is asked for. A number sign ends what is sent of an address, so objects whose
locations differ only behind one are one object to the service. All other objects are told apart.
-/

namespace Stepwise

set_option autoImplicit false

namespace WebStore

def beforeMark (cs : List Char) : List Char := cs.takeWhile (· ≠ '#')

/-- What is sent of an address. -/
def sent (address : String) : String := String.ofList (beforeMark address.toList)

/-- What is sent of a location: the container up to a number sign and, where it has none, the key up
to one. -/
def shown (container key : String) : List Char × Option (List Char) :=
  (beforeMark container.toList,
    if '#' ∈ container.toList then none else some (beforeMark key.toList))

def spelled : List Char × Option (List Char) → List Char
  | (container, none) => container
  | (container, some key) => container ++ '/' :: key

section Marks

variable {cs : List Char}

theorem beforeMark_append (hUnmarked : '#' ∉ cs) (ds : List Char) :
    beforeMark (cs ++ ds) = cs ++ beforeMark ds := by
  refine List.takeWhile_append_of_pos fun c hAmong => ?_
  exact decide_eq_true fun hSame => hUnmarked (hSame ▸ hAmong)

theorem beforeMark_of_not_mem (hUnmarked : '#' ∉ cs) : beforeMark cs = cs := by
  simpa [beforeMark] using beforeMark_append hUnmarked []

theorem beforeMark_append_of_mem (hMarked : '#' ∈ cs) (ds : List Char) :
    beforeMark (cs ++ ds) = beforeMark cs := by
  obtain ⟨before, after, rfl, hFirst⟩ := List.eq_append_cons_of_mem hMarked
  rw [List.append_assoc, beforeMark_append hFirst, beforeMark_append hFirst]
  rfl

theorem not_mem_beforeMark {c : Char} (h : c ∉ cs) : c ∉ beforeMark cs :=
  fun hAmong => h ((List.takeWhile_sublist _).subset hAmong)

end Marks

section Slashes

variable {cs ds : List Char}

/-- The first slash tells a container from its key. -/
theorem slash_inj {keys keys' : List Char} (h : '/' ∉ cs) (h' : '/' ∉ ds)
    (hSame : cs ++ '/' :: keys = ds ++ '/' :: keys') : cs = ds ∧ keys = keys' := by
  have hParts := congrArg (List.splitOn '/') hSame
  rw [List.splitOn_append_cons_self_of_not_mem h, List.splitOn_append_cons_self_of_not_mem h']
    at hParts
  have hFirst : cs = ds := (List.cons.inj hParts).1
  subst hFirst
  exact ⟨rfl, (List.cons.inj (List.append_cancel_left hSame)).2⟩

theorem spelled_inj {key key' : Option (List Char)} (h : '/' ∉ cs) (h' : '/' ∉ ds)
    (hSame : spelled (cs, key) = spelled (ds, key')) : (cs, key) = (ds, key') := by
  cases key with
  | none =>
    cases key' with
    | none => exact congrArg (·, none) hSame
    | some key' =>
      have hWhole : cs = ds ++ '/' :: key' := hSame
      exact absurd (hWhole ▸ List.mem_append_right ds List.mem_cons_self) h
  | some key =>
    cases key' with
    | none =>
      have hWhole : cs ++ '/' :: key = ds := hSame
      exact absurd (hWhole ▸ List.mem_append_right cs List.mem_cons_self) h'
    | some key' =>
      obtain ⟨rfl, rfl⟩ := slash_inj h h' hSame
      rfl

end Slashes

section Addresses

variable {url container key container' key' : String} {s : WebStore}

theorem beforeMark_location (container key : String) :
    beforeMark (container.toList ++ '/' :: key.toList) = spelled (shown container key) := by
  unfold shown
  split
  · next hMarked => exact beforeMark_append_of_mem hMarked _
  · next hUnmarked =>
    rw [beforeMark_append hUnmarked, beforeMark_of_not_mem hUnmarked]
    rfl

theorem shown_of_unmarked (hUnmarked : '#' ∉ container.toList) (hUnmarkedKey : '#' ∉ key.toList) :
    shown container key = (container.toList, some key.toList) := by
  rw [shown, if_neg hUnmarked, beforeMark_of_not_mem hUnmarked, beforeMark_of_not_mem hUnmarkedKey]

theorem ofUrl?_of_trimmed {base : String}
    (hTrimmed : (url.toList.reverse.dropWhile (· = '/')).reverse = base.toList)
    (hNonempty : base ≠ "") :
    ofUrl? url = .ok ⟨base⟩ := by
  simp [ofUrl?, hTrimmed, hNonempty]

theorem not_mem_baseUrl (hOpened : ofUrl? url = .ok s) (hUnmarked : '#' ∉ url.toList) :
    '#' ∉ s.baseUrl.toList := by
  unfold ofUrl? at hOpened
  dsimp only at hOpened
  split at hOpened
  · cases hOpened
  · cases hOpened
    rw [String.toList_ofList, List.mem_reverse]
    intro hAmong
    exact hUnmarked (List.mem_reverse.mp ((List.dropWhile_sublist _).subset hAmong))

theorem objectUrl_of_accepted (hAccepted : Location.check container key = .ok ()) :
    s.objectUrl container key = .ok (s.baseUrl ++ "/" ++ container ++ "/" ++ key) := by
  unfold objectUrl
  rw [hAccepted]
  rfl

theorem toList_address (s : WebStore) (container key : String) :
    (s.baseUrl ++ "/" ++ container ++ "/" ++ key).toList =
      s.baseUrl.toList ++ '/' :: (container.toList ++ '/' :: key.toList) := by
  simp [String.toList_append]

theorem sent_eq_iff (hUnmarked : '#' ∉ s.baseUrl.toList) (hSingle : '/' ∉ container.toList)
    (hSingle' : '/' ∉ container'.toList) :
    sent (s.baseUrl ++ "/" ++ container ++ "/" ++ key) =
      sent (s.baseUrl ++ "/" ++ container' ++ "/" ++ key') ↔
      shown container key = shown container' key' := by
  have hCut (cs : List Char) : beforeMark ('/' :: cs) = '/' :: beforeMark cs := rfl
  rw [sent, sent, toList_address, toList_address, beforeMark_append hUnmarked,
    beforeMark_append hUnmarked, hCut, hCut, beforeMark_location, beforeMark_location]
  constructor
  · intro hSame
    have hRests := List.append_cancel_left (String.ofList_injective hSame)
    exact spelled_inj (not_mem_beforeMark hSingle) (not_mem_beforeMark hSingle')
      (List.cons.inj hRests).2
  · intro hSame
    rw [hSame]

/-- Two objects have different addresses. They differ in what is sent of them as well, if the
locations do so before a number sign in them, and so if there is none in them. -/
theorem addresses_apart (hOpened : ofUrl? url = .ok s) (hUnmarked : '#' ∉ url.toList)
    (hAccepted : Location.check container key = .ok ())
    (hAccepted' : Location.check container' key' = .ok ())
    (hDiffer : ¬ (container = container' ∧ key = key')) :
    ∃ address address', s.objectUrl container key = .ok address ∧
      s.objectUrl container' key' = .ok address' ∧ address ≠ address' ∧
      (sent address = sent address' ↔ shown container key = shown container' key') ∧
      ('#' ∉ container.toList ++ key.toList → '#' ∉ container'.toList ++ key'.toList →
        sent address ≠ sent address') := by
  have hBase := not_mem_baseUrl hOpened hUnmarked
  have hSingle := (Location.isContainer_iff.mp (Location.check_eq_ok_iff.mp hAccepted).1).1
  have hSingle' := (Location.isContainer_iff.mp (Location.check_eq_ok_iff.mp hAccepted').1).1
  refine ⟨_, _, objectUrl_of_accepted hAccepted, objectUrl_of_accepted hAccepted', ?_,
    sent_eq_iff hBase hSingle hSingle', ?_⟩
  · intro hSame
    have hTexts := congrArg String.toList hSame
    rw [toList_address, toList_address] at hTexts
    obtain ⟨hContainers, hKeys⟩ := slash_inj hSingle hSingle'
      (List.cons.inj (List.append_cancel_left hTexts)).2
    exact hDiffer ⟨String.toList_inj.mp hContainers, String.toList_inj.mp hKeys⟩
  · intro hPlain hPlain' hSame
    rw [List.mem_append, not_or] at hPlain hPlain'
    have hShownSame := (sent_eq_iff hBase hSingle hSingle').mp hSame
    rw [shown_of_unmarked hPlain.1 hPlain.2, shown_of_unmarked hPlain'.1 hPlain'.2] at hShownSame
    obtain ⟨hContainers, hKeys⟩ := Prod.mk.inj hShownSame
    exact hDiffer ⟨String.toList_inj.mp hContainers, String.toList_inj.mp (Option.some.inj hKeys)⟩

theorem reports_apart : ∃ s, ofUrl? "http://objects/" = .ok s ∧ '#' ∉ "http://objects/".toList ∧
    Location.check "large" "order-7/report.json" = .ok () ∧
    Location.check "large" "order-8/report.json" = .ok () ∧
    ∃ address address', s.objectUrl "large" "order-7/report.json" = .ok address ∧
      s.objectUrl "large" "order-8/report.json" = .ok address' ∧ sent address ≠ sent address' := by
  have hOpened : ofUrl? "http://objects/" = .ok ⟨"http://objects"⟩ :=
    ofUrl?_of_trimmed (by decide +kernel) (by decide)
  have hUnmarked : '#' ∉ "http://objects/".toList := by decide +kernel
  have hAccepted : Location.check "large" "order-7/report.json" = .ok () :=
    Location.check_eq_ok_iff.mpr (by decide +kernel)
  have hAccepted' : Location.check "large" "order-8/report.json" = .ok () :=
    Location.check_eq_ok_iff.mpr (by decide +kernel)
  obtain ⟨address, address', hFound, hFound', -, -, hApart⟩ :=
    addresses_apart hOpened hUnmarked hAccepted hAccepted' (by decide)
  exact ⟨_, hOpened, hUnmarked, hAccepted, hAccepted', address, address', hFound, hFound',
    hApart (by decide +kernel) (by decide +kernel)⟩

/-- Executions whose names go on behind a number sign have one address for all their objects. -/
theorem marked_reports_share_address : ∃ s address address', ofUrl? "http://objects" = .ok s ∧
    '?' ∉ "http://objects".toList ∧ '#' ∉ "http://objects".toList ∧
    Location.check "large" "order#7/report.json" = .ok () ∧
    Location.check "large" "order#8/report.json" = .ok () ∧
    s.objectUrl "large" "order#7/report.json" = .ok address ∧
    s.objectUrl "large" "order#8/report.json" = .ok address' ∧
    sent address = "http://objects/large/order" ∧ sent address' = "http://objects/large/order" := by
  have hAccepted : Location.check "large" "order#7/report.json" = .ok () :=
    Location.check_eq_ok_iff.mpr (by decide +kernel)
  have hAccepted' : Location.check "large" "order#8/report.json" = .ok () :=
    Location.check_eq_ok_iff.mpr (by decide +kernel)
  exact ⟨⟨"http://objects"⟩, _, _,
    ofUrl?_of_trimmed (by decide +kernel) (by decide), by decide +kernel,
    by decide +kernel, hAccepted, hAccepted', objectUrl_of_accepted hAccepted,
    objectUrl_of_accepted hAccepted', by decide +kernel, by decide +kernel⟩

end Addresses

end WebStore

end Stepwise
