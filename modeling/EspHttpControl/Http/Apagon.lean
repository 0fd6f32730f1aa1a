import EspHttpControl.Http.Escrituras
import EspHttpControl.Http.Reset
import EspHttpControl.Registers.Cuts

/-! A power failure in the middle of `SETPORTS`.
The ports are committed one by one and the mark of a registered card behind them; a card that has
the mark already does not lose it while its ports change.
-/

namespace EspHttpControl.Http

open CText Nvs Registers

/-- A boot loads the same keys from the storage as from one of two others. -/
def Una (inicial final nvs : Almacen) : Prop :=
  tablaCargada nvs = tablaCargada inicial ∨ tablaCargada nvs = tablaCargada final

/-- Wherever the power fails, the next boot erases the card, or it loads the keys from before the
request or those of the completed request, which leaves `final`.
-/
def TodoONada (inicial final : Almacen) (escrituras : List Escritura) : Prop :=
  ∀ k, alArrancar (inicial.writeAll (escrituras.take k)) = none
    ∨ Una inicial final (inicial.writeAll (escrituras.take k))

/-- The write alone changes the keys that a boot loads. -/
def CambiaTabla (nvs : Almacen) (escritura : Escritura) : Prop :=
  tablaCargada (nvs.write escritura.1 escritura.2) ≠ tablaCargada nvs

/-- At most one of the writes changes the keys that a boot loads. -/
def AlSumoUna (nvs : Almacen) (lote : List Escritura) : Prop :=
  lote.Pairwise fun escritura otra => ¬(CambiaTabla nvs escritura ∧ CambiaTabla nvs otra)

/-- Each document that finds the card registered changes at most one key, and the documents before
it have posted the keys of `inicial` or those of `final`.
-/
def Ordenado (inicial final : Almacen) : Almacen → List (List Escritura) → Prop
  | _, [] => True
  | nvs, lote :: rest =>
    (alArrancar nvs ≠ none → Una inicial final nvs ∧ AlSumoUna nvs lote)
    ∧ Ordenado inicial final (nvs.writeAll lote) rest

-----------------------------------------------------------------------------------------
-- What a boot sees of the entries
-----------------------------------------------------------------------------------------

/-- What a boot loads from the entry under a name: a port, if it is the name of a key. -/
def puertoDeEntrada (registro : String) (entrada : Option Str) : Option UInt8 :=
  if registro ∈ KeyValue.all.map KeyValue.registro then
    let valor := entrada.getD "ESP_ERR_NVS_NOT_FOUND".toList
    let puerto :=
      if valor = "ESP_ERR_NVS_NOT_FOUND".toList then keyNotAllocated
      else if valor = "ERROR_READING_NVS".toList then errorReadingNvs
      else (atoi valor).toUInt32.toUInt16
    if puerto.toUInt8 ≠ 0xFF ∧ puerto.toUInt8 ≠ 0xFE then some puerto.toUInt8 else none
  else none

theorem seen_registro (nvs : Almacen) (key : KeyValue)
    : nvs.seen puertoDeEntrada key.registro = puertoCargado nvs key := by
  have known : key.registro ∈ KeyValue.all.map KeyValue.registro :=
    List.mem_map_of_mem (KeyValue.mem_all key)
  have text := readxNvs_eq nvs key.registro
  rw [Store.seen, puertoDeEntrada, if_pos known, puertoCargado]
  simp only [Registrada, preReadxNvs, text]

/-- Two storages load the same keys exactly if a boot sees the same in all their entries. -/
theorem tablaCargada_seen {nvs otro : Almacen}
    : tablaCargada nvs = tablaCargada otro
      ↔ nvs.seen puertoDeEntrada = otro.seen puertoDeEntrada := by
  rw [tablaCargada_eq_iff]
  constructor
  · intro same
    funext registro
    by_cases known : registro ∈ KeyValue.all.map KeyValue.registro
    · obtain ⟨key, -, rfl⟩ := List.mem_map.mp known
      rw [seen_registro, seen_registro, same]
    · rw [Store.seen, Store.seen, puertoDeEntrada, puertoDeEntrada, if_neg known, if_neg known]
  · intro same key
    rw [← seen_registro, ← seen_registro, same]

theorem cambiaTabla_iff {nvs : Almacen} {escritura : Escritura}
    : CambiaTabla nvs escritura ↔ nvs.Changes puertoDeEntrada escritura := by
  rw [CambiaTabla, Ne, tablaCargada_seen, Store.Changes, Ne, not_iff_not]
  constructor
  · exact fun same => congrFun same escritura.1
  · exact fun same => Store.seen_write_of_not_changes (not_not.mpr same)

theorem alSumoUna_iff {nvs : Almacen} {lote : List Escritura}
    : AlSumoUna nvs lote ↔ nvs.AtMostOneChanges puertoDeEntrada lote := by
  simp only [AlSumoUna, Store.AtMostOneChanges, cambiaTabla_iff]

/-- The card is registered exactly if its mark is there. -/
theorem alArrancar_ne_none {nvs : Almacen}
    : alArrancar nvs ≠ none ↔ nvs.get "7_STATUS-MATR" = some ['1'] := by
  have marked : readxNvs nvs "7_STATUS-MATR" = ['1'] ↔ nvs.get "7_STATUS-MATR" = some ['1'] := by
    rw [readxNvs_eq]
    cases nvs.get "7_STATUS-MATR" with
    | none => decide
    | some valor => simp
  rw [alArrancar, ← marked]
  split
  · next present => simp [present]
  · next absent => simp [absent]

-----------------------------------------------------------------------------------------
-- The writes of one document
-----------------------------------------------------------------------------------------

/-- The write of the mark, or none. -/
def marcas : Bool → List Escritura
  | true => [("7_STATUS-MATR", ['1'])]
  | false => []

/-- Some ports in the order of the table, and the mark behind them or not. -/
def Lote (lote : List Escritura) : Prop :=
  ∃ puertos marca,
    lote = puertos ++ marcas marca ∧ puertos.map Prod.fst <+: filas.map Fila.registro

theorem Lote.nil : Lote [] := ⟨[], false, rfl, List.nil_prefix⟩

/-- Orders that store some values and then the mark write a prefix of the values, and the mark
only behind all of them. By induction on the values.
-/
theorem escrituras_guardadas (pares : List (String × Option Str)) (doc : Doc)
    : ∃ puertos marca,
        Orden.escrituras ((pares.map fun (registro, dato) => .grabar registro dato)
            ++ [.grabar "7_STATUS-MATR" (some "1".toList), .preparar doc])
          = puertos ++ marcas marca
        ∧ puertos.map Prod.fst <+: pares.map Prod.fst := by
  induction pares with
  | nil => exact ⟨[], true, rfl, List.nil_prefix⟩
  | cons par rest ih =>
      obtain ⟨registro, _ | dato⟩ := par
      · exact ⟨[], false, rfl, List.nil_prefix⟩
      · obtain ⟨puertos, marca, same, front⟩ := ih
        refine ⟨(registro, dato) :: puertos, marca, ?_, ?_⟩
        · rw [List.map_cons, List.cons_append, Orden.escrituras, same, List.cons_append]
        · rw [List.map_cons, List.map_cons]
          exact (List.prefix_cons_inj _).mpr front

/-- A document makes `setports_handler` write a part of its table in order. -/
theorem setports_lote {d : Device} {root : Json} {ordenes : List Orden}
    (asked : setportsHandler.pide d root = some ordenes)
    : Lote (Orden.escrituras ordenes) := by
  rw [Manejador.pide] at asked
  split at asked
  · next token valores read =>
    split at asked
    · cases asked
    · obtain rfl := Option.some.inj asked
      obtain ⟨puertos, marca, same, front⟩ := escrituras_guardadas
        (filas.zipIdx.map fun x => (x.1.registro, valores[x.2]?.join))
        (mensaje "SETPORTS" "Data saved..")
      rw [List.map_map] at same
      refine ⟨puertos, marca, same, ?_⟩
      have names : (filas.zipIdx.map fun x => x.1.registro) = filas.map Fila.registro := by
        change filas.zipIdx.map (Fila.registro ∘ Prod.fst) = _
        rw [← List.map_map, List.zipIdx_map_fst]
      rw [List.map_map] at front
      exact names ▸ front
    · obtain rfl := Option.some.inj asked
      exact Lote.nil
  · cases asked

theorem status_no_es_puerto {nombres : List String} (front : nombres <+: filas.map Fila.registro)
    : "7_STATUS-MATR" ∉ nombres :=
  fun member => status_ajeno.1 (front.subset member)

/-- The names in the writes of a document differ. -/
theorem Lote.nodup {lote : List Escritura} (h : Lote lote) : (lote.map Prod.fst).Nodup := by
  obtain ⟨puertos, marca, rfl, front⟩ := h
  have ports : (puertos.map Prod.fst).Nodup := front.sublist.nodup filas_wellFormed.2
  rw [List.map_append, List.nodup_append]
  refine ⟨ports, by cases marca <;> simp [marcas], fun name member other last => ?_⟩
  cases marca with
  | false => exact absurd last List.not_mem_nil
  | true =>
      obtain rfl := List.mem_singleton.mp last
      rintro rfl
      exact status_no_es_puerto front member

/-- A registered card stays registered wherever the writes of a document stop. -/
theorem Lote.registrada {lote : List Escritura} (h : Lote lote) {nvs : Almacen}
    (registrada : alArrancar nvs ≠ none) (k : Nat)
    : alArrancar (nvs.writeAll (lote.take k)) ≠ none := by
  rw [alArrancar_ne_none] at registrada ⊢
  by_cases written : "7_STATUS-MATR" ∈ (lote.take k).map Prod.fst
  · obtain ⟨⟨_, valor⟩, member, rfl⟩ := List.mem_map.mp written
    have distinct : ((lote.take k).map Prod.fst).Nodup := by
      rw [List.map_take]
      exact (List.take_sublist _ _).nodup h.nodup
    have stored := Store.get_writeAll_of_mem distinct member (by decide) nvs
    obtain ⟨puertos, marca, rfl, front⟩ := h
    rcases List.mem_append.mp (List.mem_of_mem_take member) with port | mark
    · exact absurd (List.mem_map_of_mem (f := Prod.fst) port) (status_no_es_puerto front)
    · cases marca with
      | false => exact absurd mark List.not_mem_nil
      | true => rwa [← (Prod.mk.inj (List.mem_singleton.mp mark)).2]
  · rwa [Store.get_writeAll_of_not_mem written]

/-- A card that is not registered becomes so only with the last write of a document. -/
theorem Lote.sin_registrar {lote : List Escritura} (h : Lote lote) {nvs : Almacen}
    (sin : alArrancar nvs = none) (k : Nat)
    : alArrancar (nvs.writeAll (lote.take k)) = none ∨ lote.take k = lote := by
  obtain ⟨puertos, marca, rfl, front⟩ := h
  by_cases whole : puertos.length + 1 ≤ k
  · refine Or.inr (List.take_of_length_le ?_)
    rw [List.length_append]
    cases marca <;> simp only [marcas, List.length_nil, List.length_singleton] <;> omega
  · left
    by_contra registrada
    have short : k ≤ puertos.length := by omega
    rw [List.take_append_of_le_length short, ← Ne, alArrancar_ne_none] at registrada
    have absent : "7_STATUS-MATR" ∉ (puertos.take k).map Prod.fst := by
      rw [List.map_take]
      exact fun member => status_no_es_puerto front (List.mem_of_mem_take member)
    rw [Store.get_writeAll_of_not_mem absent] at registrada
    exact alArrancar_ne_none.mpr registrada sin

-----------------------------------------------------------------------------------------
-- Main result
-----------------------------------------------------------------------------------------

/-- Stops in the writes of one document on a registered card, by the rule for writes under
distinct names.
-/
theorem lote_registrado_iff {inicial final nvs : Almacen} {lote : List Escritura}
    (forma : Lote lote)
    : (∀ k, Una inicial final (nvs.writeAll (lote.take k)))
      ↔ Una inicial final nvs ∧ Una inicial final (nvs.writeAll lote) ∧ AlSumoUna nvs lote := by
  simp only [Una, tablaCargada_seen, alSumoUna_iff]
  exact Store.seen_take_iff forma.nodup

/-- Stops in the writes of one document: those of a registered card, or they leave a card that
is not registered.
-/
theorem lote_iff {inicial final nvs : Almacen} {lote : List Escritura} (forma : Lote lote)
    (behind : alArrancar (nvs.writeAll lote) = none ∨ Una inicial final (nvs.writeAll lote))
    : (∀ k, alArrancar (nvs.writeAll (lote.take k)) = none
          ∨ Una inicial final (nvs.writeAll (lote.take k)))
      ↔ (alArrancar nvs ≠ none → Una inicial final nvs ∧ AlSumoUna nvs lote) := by
  by_cases registrada : alArrancar nvs = none
  · refine ⟨fun _ present => absurd registrada present, fun _ k => ?_⟩
    rcases forma.sin_registrar registrada k with sin | whole
    · exact Or.inl sin
    · rwa [whole]
  · have all : (∀ k, Una inicial final (nvs.writeAll (lote.take k)))
        ↔ Una inicial final nvs ∧ Una inicial final (nvs.writeAll lote) ∧ AlSumoUna nvs lote :=
      lote_registrado_iff forma
    have still (k : Nat) := forma.registrada registrada k
    have last : Una inicial final (nvs.writeAll lote) := by
      have present := still lote.length
      rw [List.take_length] at present
      exact behind.resolve_left present
    constructor
    · intro holds _
      obtain ⟨start, -, few⟩ := all.mp fun k => (holds k).resolve_left (still k)
      exact ⟨start, few⟩
    · intro holds k
      obtain ⟨start, few⟩ := holds registrada
      exact Or.inr (all.mpr ⟨start, last, few⟩ k)

/-- Stops in the writes of several documents, by induction on the documents. -/
theorem lotes_iff {inicial final nvs : Almacen} {lotes : List (List Escritura)}
    (formas : ∀ lote ∈ lotes, Lote lote)
    : (∀ k, alArrancar (nvs.writeAll (lotes.flatten.take k)) = none
          ∨ Una inicial final (nvs.writeAll (lotes.flatten.take k)))
      ↔ Ordenado inicial final nvs lotes
        ∧ (alArrancar (nvs.writeAll lotes.flatten) = none
          ∨ Una inicial final (nvs.writeAll lotes.flatten)) := by
  induction lotes generalizing nvs with
  | nil =>
      simp only [List.flatten_nil, List.take_nil]
      exact ⟨fun all => ⟨trivial, all 0⟩, fun holds _ => holds.2⟩
  | cons lote rest ih =>
      have forma := formas lote List.mem_cons_self
      have later := @ih (nvs.writeAll lote) fun otro member =>
        formas otro (List.mem_cons_of_mem _ member)
      have stops : (∀ k, alArrancar (nvs.writeAll ((lote :: rest).flatten.take k)) = none
            ∨ Una inicial final (nvs.writeAll ((lote :: rest).flatten.take k)))
          ↔ (∀ k, alArrancar (nvs.writeAll (lote.take k)) = none
              ∨ Una inicial final (nvs.writeAll (lote.take k)))
            ∧ ∀ k, alArrancar ((nvs.writeAll lote).writeAll (rest.flatten.take k)) = none
              ∨ Una inicial final ((nvs.writeAll lote).writeAll (rest.flatten.take k)) := by
        simp only [List.flatten_cons, ← Registers.Store.writeAll_append]
        constructor
        · intro all
          refine ⟨fun k => ?_, fun k => ?_⟩
          · rcases Nat.le_total k lote.length with short | long
            · simpa only [List.take_append_of_le_length short] using all k
            · simpa only [List.take_of_length_le long, List.take_left'] using all lote.length
          · simpa only [List.take_length_add_append] using all (lote.length + k)
        · intro holds k
          rcases Nat.le_total k lote.length with short | long
          · rw [List.take_append_of_le_length short]
            exact holds.1 k
          · obtain ⟨more, rfl⟩ := Nat.exists_eq_add_of_le long
            simpa only [List.take_length_add_append] using holds.2 more
      rw [stops, later, List.flatten_cons, Registers.Store.writeAll_append, Ordenado, and_assoc]
      constructor
      · intro holds
        obtain ⟨first, others, last⟩ := holds
        have behind := later.mpr ⟨others, last⟩ 0
        exact ⟨(lote_iff forma behind).mp first, others, last⟩
      · intro holds
        obtain ⟨first, others, last⟩ := holds
        have behind := later.mpr ⟨others, last⟩ 0
        exact ⟨(lote_iff forma behind).mpr first, others, last⟩

/-- A `SETPORTS` request is all or nothing under a power failure exactly if each of its documents
that finds the card registered changes at most one key, and finds the keys from before the request
or those that all documents post together. Witness: the writes of a document have distinct names
and end with the mark.
-/
theorem setports_todo_o_nada_iff (parse : Str → Option Json) (d : Device) (contentLen : Nat)
    (recepciones : List Recepcion)
    : TodoONada d.nvs (setportsHandler.handler parse d contentLen recepciones).dev.nvs
          (setportsHandler.escrituras parse d contentLen recepciones).flatten
      ↔ Ordenado d.nvs
          (d.nvs.writeAll (setportsHandler.escrituras parse d contentLen recepciones).flatten)
          d.nvs (setportsHandler.escrituras parse d contentLen recepciones) := by
  have formas : ∀ lote ∈ setportsHandler.escrituras parse d contentLen recepciones, Lote lote :=
    Manejador.forall_escrituras Lote.nil (fun _ _ _ asked => setports_lote asked) d contentLen
      recepciones
  rw [Manejador.handler_nvs, TodoONada, lotes_iff formas]
  exact and_iff_left (Or.inr (Or.inr rfl))

/-- An authenticated request in one piece with a string for every port writes the whole table. -/
theorem setports_una_pieza {parse : Str → Option Json} {d : Device} {root : Json} {token : Str}
    {valor : Fila → Str} {datos resto : List Char} (esperas : Nat) (cola : List Recepcion)
    (ne : datos ≠ []) (documento : parse (cstr (datos ++ resto)) = some root)
    (vigente : d.tokenHttser = some token) (autentica : root.stringAt ["token"] = some token)
    (valores : ∀ fila ∈ filas, root.stringAt fila.path = some (valor fila))
    : setportsHandler.escrituras parse d datos.length
          (List.replicate esperas .timeout ++ .pieza datos resto :: cola)
      = [paresSetports valor] := by
  have written (pares : List Escritura) (doc : Doc)
      : Orden.escrituras (pares.map (fun (registro, dato) => .grabar registro (some dato))
          ++ [.preparar doc])
        = pares := by
    induction pares with
    | nil => rfl
    | cons par rest ih => exact congrArg (par :: ·) ih
  rw [Manejador.escrituras_una_pieza esperas cola ne, Manejador.escribeTurno, documento,
    Option.bind_some, setports_pide vigente autentica valores]
  dsimp only
  rw [written]

/-- In one piece the condition is about the card and the posted ports alone. -/
theorem ordenado_una {nvs final : Almacen} {lote : List Escritura}
    : Ordenado nvs final nvs [lote] ↔ (alArrancar nvs ≠ none → AlSumoUna nvs lote) := by
  constructor
  · exact fun holds registrada => (holds.1 registrada).2
  · exact fun few => ⟨fun registrada => ⟨Or.inl rfl, few registrada⟩, trivial⟩

/-- A registered card in service with two ports. -/
def conDosPuertos : Device :=
  ((Device.nueva.grabarNvs "7_STATUS-MATR" ['1']).grabarNvs "1_PRESCOM" ['1', '0']).grabarNvs
    "1_PRESION_DISP" ['1', '1'] |>.enServicio secreto

/-- A power failure behind the first write of a request that takes both ports away leaves one. -/
theorem setports_a_medias
    : ¬TodoONada conDosPuertos.nvs
        (setportsHandler.handler (JsonText.parse atoi) conDosPuertos
          (textoSetports secreto puertoClima).length
          [.pieza (textoSetports secreto puertoClima) [nul]]).dev.nvs
        (setportsHandler.escrituras (JsonText.parse atoi) conDosPuertos
          (textoSetports secreto puertoClima).length
          [.pieza (textoSetports secreto puertoClima) [nul]]).flatten := by
  have ne : textoSetports secreto puertoClima ≠ [] := List.cons_ne_nil _ _
  have written : setportsHandler.escrituras (JsonText.parse atoi) conDosPuertos
        (textoSetports secreto puertoClima).length
        [.pieza (textoSetports secreto puertoClima) [nul]]
      = [paresSetports fun fila => Nat.toDigits 10 (puertoClima fila.key)] :=
    setports_una_pieza 0 [] ne parse_textoClima rfl rfl
      (peticionSetports_puertos secreto puertoClima)
  have completed : conDosPuertos.nvs.writeAll
      (paresSetports fun fila => Nat.toDigits 10 (puertoClima fila.key))
      = trasSetports conDosPuertos.nvs puertoClima := by
    rw [paresSetports, Registers.Store.writeAll_append]
    rfl
  intro claim
  have stopped := claim 1
  rw [Manejador.handler_nvs, written, List.flatten_singleton, completed] at stopped
  have first : (paresSetports fun fila => Nat.toDigits 10 (puertoClima fila.key)).take 1
      = [("1_PRESCOM", "255".toList)] := rfl
  rw [first] at stopped
  have before : puertoCargado conDosPuertos.nvs .prescom = some 10 := by decide +kernel
  have between : puertoCargado (conDosPuertos.nvs.writeAll [("1_PRESCOM", "255".toList)]) .prescom
        = none
      ∧ puertoCargado (conDosPuertos.nvs.writeAll [("1_PRESCOM", "255".toList)]) .presionDisp
        = some 11 := by
    decide +kernel
  have behind : puertoCargado (trasSetports conDosPuertos.nvs puertoClima) .presionDisp = none := by
    have read : LeeComo (trasSetports conDosPuertos.nvs puertoClima) .presionDisp
        (puertoClima .presionDisp) :=
      leeComo_fila (puertoClima_rango .presionDisp) (by decide) (by decide)
    exact if_neg (read.1 rfl)
  rcases stopped with sin | old | new
  · refine absurd sin (alArrancar_ne_none.mpr ?_)
    decide +kernel
  · have same := tablaCargada_eq_iff.mp old .prescom
    rw [between.1, before] at same
    cases same
  · have same := tablaCargada_eq_iff.mp new .presionDisp
    rw [between.2, behind] at same
    cases same

end EspHttpControl.Http
