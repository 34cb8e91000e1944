import Mathlib.Data.List.Basic
import SignOn.Proofs.Json.Extending
import SignOn.Proofs.RoundTrip

/-!
Where a response ends. Its length is not always announced, so the end of its text has
to be told from the text.

* `WireType.reader_closed`: the reader of every record knows where to stop;
* `whole_documents`: a document that is read as a response is read as none when it is
  cut, and none when anything but blanks follows it.
-/

namespace SignOn

open Json (Blanks Written)

namespace WireType

open Json.Reader

theorem device_closed : Device.reader.Closed := by
  have hfields : Device.fields.Forall fun f => f.reader.Steady :=
    ⟨text_steady, text_steady, text_steady, integer_steady.optional, flag_steady⟩
  exact (record_closed Device.typeName (List.forall_iff_forall_mem.mp hfields)).map Device.ofValues

theorem fields_steady (T : WireType) : T.fields.Forall fun f => f.reader.Steady := by
  have hdevice := device_closed.steady
  cases T with
  | grant => exact ⟨text_steady, natural_steady, text_steady.optional⟩
  | device =>
    exact ⟨text_steady, text_steady, text_steady, integer_steady.optional, flag_steady⟩
  | deviceStatus => exact ⟨flag_steady, hdevice.optional, integer_steady.optional⟩
  | profile =>
    exact ⟨text_steady, text_steady, text_steady, text_steady, flag_steady, text_steady,
      integer_steady, integer_steady⟩
  | documentStatus =>
    exact ⟨flag_steady, text_steady.optional, integer_steady.optional, integer_steady.optional⟩
  | enrollment => exact ⟨text_steady, text_steady, text_steady, text_steady.optional⟩
  | machineToken => exact ⟨text_steady, natural_steady, text_steady⟩
  | complaint =>
    exact ⟨text_steady.optional, text_steady.optional, flag_steady, text_steady.optional⟩

/-- The reader of every record knows where to stop. -/
theorem reader_closed (T : WireType) : T.reader.Closed := by
  have hfields := List.forall_iff_forall_mem.mp T.fields_steady
  have hrecord := fun name => (record_closed name hfields).map T.ofValues
  cases T <;> exact hrecord _

end WireType

/-- **A cut or overlong document is never taken for a whole one.** What is read as a
record, or as a list of devices, is read as the same with blanks behind it, and is
refused with anything else behind it. Hence of two documents that are both read, one
is a proper beginning of the other only if blanks are all that is missing. -/
theorem whole_documents (d x : List UInt8) :
    (∀ (T : WireType) (v : T.Carrier), Json.decode T.reader d = .ok v →
      ∀ w, Json.decode T.reader (d ++ x) = .ok w ↔ Blanks x ∧ w = v) ∧
    ∀ v, Json.decode Device.listReader d = .ok v →
      ∀ w, Json.decode Device.listReader (d ++ x) = .ok w ↔ Blanks x ∧ w = v := by
  refine ⟨fun T v h w => ?_, fun v h w => ?_⟩
  · exact T.reader_closed.decode_append h x w
  · exact WireType.device_closed.steady.list.decode_append h x w

/-- A grant with a line break behind it, one with another bracket behind it, and an
empty list of which the last bracket is lost. -/
theorem whole_documents_cut :
    let d := Utf8.encode "\x7b\"accessToken\":\"a\",\"expiresIn\":60\x7d"
    Json.decode Grant.reader (d ++ [0x0A]) = .ok ⟨"a", 60, none⟩ ∧
      (∀ w, Json.decode Grant.reader (d ++ [Json.Byte.closeObject]) ≠ .ok w) ∧
      ∀ v, Json.decode Device.listReader [Json.Byte.openList] ≠ .ok v := by
  intro d
  have hd : Utf8.encode (Grant.toJson ⟨"a", 60, none⟩).render = d := by decide
  have hsays := Grant.says ⟨"a", 60, none⟩
  have hgrant := WireType.grant.reader_takes.decode_render hsays
  rw [hd] at hgrant
  have hnone := WireType.device.reader_takes.list.decode_render (Json.list_says Device.says [])
  have hbreak : Blanks [0x0A] := List.forall_mem_singleton.mpr rfl
  refine ⟨?_, fun w hw => ?_, fun v hv => ?_⟩
  · exact ((whole_documents d [0x0A]).1 .grant _ hgrant _).mpr ⟨hbreak, rfl⟩
  · obtain ⟨hblank, _⟩ := ((whole_documents d [Json.Byte.closeObject]).1 .grant _ hgrant w).mp hw
    exact absurd (List.forall_mem_singleton.mp hblank) (by decide)
  · obtain ⟨hblank, _⟩ :=
      ((whole_documents [Json.Byte.openList] [Json.Byte.closeList]).2 v hv []).mp hnone
    exact absurd (List.forall_mem_singleton.mp hblank) (by decide)

end SignOn
