import Voicx.Found.FiniteMap

/-!
# Simulcast layers

A publisher sends a video slot in one or several layers, each a track with a RID that the publisher
chooses, and `ReadVideoLoop` registers the RIDs of the tracks it reads. A subscriber has one output
track for a slot, so of several layers it should get one.

* `acceptLayerLocked` — whether packets of a layer go to a subscriber.
* `forwardVideo` — who gets a packet, on which track.
* `one_layer_iff` — **exactly one layer is accepted if only one is registered, or if none has the
  empty RID and one has a RID that the router knows; otherwise all are.**

Source names without a file are from `internal/webrtc/router.go`.
-/

namespace Voicx.WebRTC

open Found

/-- Source: `Router`; `W` is the type of the output tracks
Fidelity: the fields that decide which layers are forwarded -/
structure Router (W : Type) where
  /-- By publisher, slot and RID, with the SSRC. -/
  videoSources : FMap String (FMap String (FMap String UInt32))
  layerPrefs : FMap String String
  /-- By subscriber, publisher and slot. -/
  pubTracks : FMap String (FMap String (FMap String W))

namespace Router

variable {W : Type} (r : Router W) (subscriber publisher slot rid : String)

/-- The layers of a slot, none for an unknown one. -/
def layers : FMap String UInt32 :=
  (((r.videoSources.lookup publisher).getD ∅).lookup slot).getD ∅

/-- Source: `layerPrefLocked` -/
def layerPrefLocked : String := (r.layerPrefs.lookup subscriber).getD "h"

/-- Source: `layerFallback` -/
def layerFallback (pref : String) : List String :=
  if pref = "f" then ["f", "h", "q"] else if pref = "q" then ["q", "h", "f"] else ["h", "q", "f"]

/-- Source: `acceptLayerLocked` -/
def acceptLayerLocked : Bool :=
  let src := r.layers publisher slot
  if src.len = 0 then true
  else if "" ∈ src then true
  else match (layerFallback (r.layerPrefLocked subscriber)).find? (· ∈ src) with
    | some candidate => rid == candidate
    | none => true

/-- The subscriber's output track for a slot of a publisher. -/
def track : Option W :=
  ((r.pubTracks.lookup subscriber).bind (·.lookup publisher)).bind (·.lookup slot)

/-- The subscribers that get a packet, with their tracks; `subs` is what `targetSubscribersLocked`
returns. The recorder's tap, which is no subscriber, is left out.
Source: `ForwardVideo` -/
def forwardVideo (subs : List String) : List (String × W) :=
  subs.filterMap fun sub =>
    if r.acceptLayerLocked sub publisher slot rid then (r.track sub publisher slot).map (sub, ·)
    else none

variable {r subscriber publisher slot rid}

lemma mem_layerFallback {pref : String} : rid ∈ layerFallback pref ↔ rid ∈ ["f", "h", "q"] := by
  unfold layerFallback
  split_ifs <;> simp <;> tauto

/-- **A subscriber gets exactly one layer**, exactly under the condition; its track carries what is
accepted for it. -/
theorem one_layer_iff {subs : List String} {w : W} (hsub : subscriber ∈ subs)
    (hw : r.track subscriber publisher slot = some w) (hne : (r.layers publisher slot).len ≠ 0) :
    ((∃! rid, rid ∈ r.layers publisher slot ∧
        r.acceptLayerLocked subscriber publisher slot rid = true) ↔
      (r.layers publisher slot).len = 1 ∨ "" ∉ r.layers publisher slot ∧
        ∃ rid ∈ ["f", "h", "q"], rid ∈ r.layers publisher slot) ∧
      ∀ rid, (subscriber, w) ∈ r.forwardVideo publisher slot rid subs ↔
        r.acceptLayerLocked subscriber publisher slot rid = true := by
  refine ⟨?_, fun rid => ?_⟩
  · have hone : (∃! rid, rid ∈ r.layers publisher slot) ↔ (r.layers publisher slot).len = 1 := by
      rw [FMap.len_eq_card_keys, Finset.card_eq_one, Finset.singleton_iff_unique_mem]
      simp only [Finmap.mem_keys]
    simp only [acceptLayerLocked, if_neg hne]
    generalize r.layers publisher slot = src at hone ⊢
    by_cases hempty : "" ∈ src
    · simp [hempty, hone]
    simp only [hempty, if_false, not_false_eq_true, true_and]
    cases hfind : (layerFallback (r.layerPrefLocked subscriber)).find? (· ∈ src) with
    | none =>
      -- no layer that the router knows: everything passes
      have hnone : ¬∃ rid ∈ ["f", "h", "q"], rid ∈ src := by
        rintro ⟨rid, hknown, hrid⟩
        exact List.find?_eq_none.mp hfind rid (mem_layerFallback.mpr hknown) (by simpa using hrid)
      simp only [and_true, hone, hnone, or_false]
    | some candidate =>
      have hknown := mem_layerFallback.mp (List.mem_of_find?_eq_some hfind)
      have hsrc : candidate ∈ src := by simpa using List.find?_some hfind
      refine iff_of_true ⟨candidate, ⟨hsrc, by simp⟩, ?_⟩ (.inr ⟨candidate, hknown, hsrc⟩)
      rintro rid ⟨-, hrid⟩
      exact eq_of_beq hrid
  · rw [forwardVideo, List.mem_filterMap]
    constructor
    · rintro ⟨sub, -, hout⟩
      split_ifs at hout with haccept
      obtain ⟨_, -, heq⟩ := Option.map_eq_some_iff.mp hout
      cases heq
      exact haccept
    · intro haccept
      exact ⟨subscriber, hsub, by rw [if_pos haccept, hw, Option.map_some]⟩

/-- A publisher with two layers, and one subscriber. -/
def twoLayers (rid rid' : String) : Router ℕ where
  videoSources := Finmap.singleton "pub"
    (Finmap.singleton "cam" ((Finmap.singleton rid 1).insert rid' 2))
  layerPrefs := ∅
  pubTracks := Finmap.singleton "sub" (Finmap.singleton "pub" (Finmap.singleton "cam" 7))

theorem one_layer_low_and_high :
    ∃! rid, rid ∈ (twoLayers "q" "f").layers "pub" "cam" ∧
      (twoLayers "q" "f").acceptLayerLocked "sub" "pub" "cam" rid = true :=
  (one_layer_iff (w := 7) (List.mem_singleton_self "sub") (by decide +kernel)
    (by decide +kernel)).1.mpr (by decide +kernel)

/-- With RIDs that the router does not know, or with the empty RID beside another, both layers are
written to the subscriber's one track. -/
theorem two_layers_on_one_track :
    (∀ rid ∈ ["a", "b"],
        (twoLayers "a" "b").forwardVideo "pub" "cam" rid ["sub"] = [("sub", 7)]) ∧
      ∀ rid ∈ ["", "f"],
        (twoLayers "" "f").forwardVideo "pub" "cam" rid ["sub"] = [("sub", 7)] := by
  decide +kernel

end Router

end Voicx.WebRTC
