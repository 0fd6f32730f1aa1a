import EspHttpControl.Serial.Escritor

/-! What the other tasks read while `UART_tx_task` writes.
A reader takes its copy of a text between two statements of the task. In the web frame it finds
closed segments of one frame and something of the next segment; in an endpoint it finds whole
segments only.
-/

namespace EspHttpControl.Serial

open CText Nvs Machines

/-- The task is in the loop of `web_buffer_constructor`. -/
def Control.construye : Control → Bool
  | .clave _ => true
  | .dosPuntos _ _ => true
  | .puerto _ _ => true
  | .piezas _ _ => true
  | _ => false

/-- The task is in `endpoint_discriminator`. -/
def Control.reparte : Control → Bool
  | .borra _ => true
  | .copia => true
  | .token _ => true
  | .anade _ _ _ => true
  | .cierra _ _ _ _ => true
  | _ => false

/-- What is known of the texts: the arrays and flags that the web frame is rendered from, the
storages that the card had meanwhile, and the frame that the endpoints were last filled from.
-/
structure Cuadro where
  verificador : ModulosResponse
  ram : SerialRam
  fuera : Int32
  almacenes : List Almacen
  publicado : Str

def Cuadro.inicial : Cuadro := ⟨.cero, .inicial, 0, [], ['|']⟩

/-- What a step adds to it. -/
def Cuadro.nota (e : Escritor) (entrada : Entrada) (_ : Escritor) (c : Cuadro) : Cuadro :=
  match entrada with
  | .esperas _ _ _ _ => c
  | .nvs nvs => if e.control.construye then { c with almacenes := nvs :: c.almacenes } else c
  | .tx =>
    match e.control with
    | .abre => ⟨e.verificador, e.ram, e.fuera, [e.nvs], c.publicado⟩
    | .token [] => { c with publicado := e.webBuffer }
    | _ => c

/-- The text is the segment of the key, with a port that the key had while the frame was
rendered.
-/
def Cuadro.Rendido (c : Cuadro) (key : KeyValue) (texto : Str) : Prop :=
  ∃ nvs ∈ c.almacenes, segmento c.fuera nvs c.verificador c.ram key = .ok texto

/-- The text is made of some pieces of the key's segment, from the first one on. -/
def Cuadro.Empezado (c : Cuadro) (key : KeyValue) (texto : Str) : Prop :=
  ∃ nvs ∈ c.almacenes, Begins (segmentoPiezas c.fuera nvs c.verificador c.ram key) texto

/-- A frame of all keys, whenever it was rendered. -/
def Marco (keys : List KeyValue) (webBuffer : Str) : Prop :=
  fields ['|'] webBuffer = []
  ∨ ∃ fuera verificador ram,
      List.Forall₂
        (fun key texto => ∃ nvs, segmento fuera nvs verificador ram key = .ok texto)
        keys (fields ['|'] webBuffer)

-----------------------------------------------------------------------------------------
-- The texts on their way
-----------------------------------------------------------------------------------------

/-- Segments that are closed by their bars. -/
def cerrados (segmentos : List Str) : Str := '|' :: segmentos.flatMap (· ++ ['|'])

theorem cerrados_append (segmentos : List Str) (texto : Str)
    : cerrados segmentos ++ (texto ++ ['|']) = cerrados (segmentos ++ [texto]) := by
  simp [cerrados]

/-- The frame has the segments of some keys, and something behind them. -/
def Cuadro.Lleva (c : Cuadro) (webBuffer : Str) (hechas : List KeyValue) (abierto : Str) : Prop :=
  ∃ segmentos, List.Forall₂ c.Rendido hechas segmentos ∧ webBuffer = cerrados segmentos ++ abierto

/-- The endpoint shows its part of the frame that the endpoints were last filled from. -/
def Lleno (keys : List KeyValue) (puntos : PuntoWeb → Str) (c : Cuadro) (punto : PuntoWeb) : Prop :=
  fields ['|'] (puntos punto) = punto.partes keys (fields ['|'] c.publicado)

/-- No frame was begun since the last one, if there was one. -/
def Reposa (keys : List KeyValue) (webBuffer : Str) (c : Cuadro) : Prop :=
  c.almacenes = [] ∧ webBuffer = ['|'] ∨ c.Lleva webBuffer keys []

/-- The frame has been rendered up to the key that comes next. -/
structure Construye (keys : List KeyValue) (e : Escritor) (c : Cuadro)
    (hechas faltan : List KeyValue) (abierto : Str)
    : Prop where
  orden : keys = hechas ++ faltan
  verificador : c.verificador = e.verificador
  ram : c.ram = e.ram
  fuera : c.fuera = e.fuera
  nvs : e.nvs ∈ c.almacenes
  web : c.Lleva e.webBuffer hechas abierto
  puntos : ∀ punto, Lleno keys e.puntos c punto

/-- The tokens of the first keys have been handed out; each endpoint holds its own of them, and
something behind them.
-/
structure Reparte (keys : List KeyValue) (webBuffer : Str) (puntos : PuntoWeb → Str) (c : Cuadro)
    (faltan : List KeyValue) (tokens : List Str) (abierto : PuntoWeb → Str)
    (hechas : List KeyValue) (segmentos : List Str)
    : Prop where
  orden : keys = hechas ++ faltan
  web : webBuffer = cerrados (segmentos ++ tokens)
  hechos : List.Forall₂ c.Rendido hechas segmentos
  vienen : List.Forall₂ c.Rendido faltan tokens
  dados : ∀ punto, puntos punto = cerrados (punto.partes hechas segmentos) ++ abierto punto

/-- The endpoints of the number, in two parts, are those that have the token and those that are
still to get it.
-/
def Dados (key : KeyValue) (dados resto : List PuntoWeb) : Prop :=
  destinos key.num = dados ++ resto

/-- What the texts hold, by where the task is. -/
def TextosEn (keys : List KeyValue) (e : Escritor) (c : Cuadro) : Prop :=
  match e.control with
  | .espera => Reposa keys e.webBuffer c ∧ ∀ punto, Lleno keys e.puntos c punto
  | .abre => Reposa keys e.webBuffer c ∧ ∀ punto, Lleno keys e.puntos c punto
  | .clave faltan => ∃ hechas, Construye keys e c hechas faltan []
  | .dosPuntos key faltan =>
    ∃ hechas, Construye keys e c hechas (key :: faltan) (sprintD key.num.toNat)
  | .puerto key faltan =>
    ∃ hechas, Construye keys e c hechas (key :: faltan) (sprintD key.num.toNat ++ [':'])
  | .piezas vienen faltan =>
    ∃ hechas key escritas, Construye keys e c hechas (key :: faltan) (List.flatten escritas)
      ∧ ∃ nvs ∈ c.almacenes,
        segmentoPiezas c.fuera nvs c.verificador c.ram key ++ [some ['|']]
          = escritas.map some ++ vienen
  | .borra faltan =>
    c.Lleva e.webBuffer keys []
    ∧ ∀ punto, (punto ∈ faltan ∧ Lleno keys e.puntos c punto) ∨ e.puntos punto = ['|']
  | .copia => c.Lleva e.webBuffer keys [] ∧ ∀ punto, e.puntos punto = ['|']
  | .token tokens => ∃ faltan hechas segmentos,
      Reparte keys e.webBuffer e.puntos c faltan tokens (fun _ => []) hechas segmentos
  | .anade resto buffer tokens =>
    ∃ key faltan dados, Dados key dados resto ∧ ∃ hechas segmentos,
      Reparte keys e.webBuffer e.puntos c (key :: faltan) (buffer :: tokens)
        (fun punto => if punto ∈ dados then buffer ++ ['|'] else []) hechas segmentos
  | .cierra actual resto buffer tokens =>
    ∃ key faltan dados, Dados key dados (actual :: resto) ∧ ∃ hechas segmentos,
      Reparte keys e.webBuffer e.puntos c (key :: faltan) (buffer :: tokens)
        (fun punto => if punto ∈ dados then buffer ++ ['|']
          else if punto = actual then buffer else []) hechas segmentos

/-- What is known of the task and the account at every moment of a run. -/
structure Coherente (keys : List KeyValue) (e : Escritor) (c : Cuadro) : Prop where
  claves : e.keysWithPorts = keys
  limpio : SinBarra e.ram
  rendida : SinBarra c.ram
  publicado : Marco keys c.publicado
  textos : TextosEn keys e c

-----------------------------------------------------------------------------------------
-- Bars
-----------------------------------------------------------------------------------------

/-- No piece has a bar. -/
def LibresDeBarra (piezas : List Pieza) : Prop := ∀ texto, some texto ∈ piezas → '|' ∉ texto

theorem libresDeBarra_siResponde (responde : Bool) (valores : List Int32)
    : LibresDeBarra (siRespondePiezas responde (piezasDe valores)) := by
  intro texto member
  cases responde with
  | false =>
      obtain rfl := Option.some.inj (List.mem_singleton.mp member)
      decide
  | true =>
      obtain ⟨_, among, same⟩ := List.mem_map.mp member
      obtain rfl := Option.some.inj same
      rcases mem_intersperse among with rfl | printed
      · decide
      · obtain ⟨v, -, rfl⟩ := List.mem_map.mp printed
        exact bar_not_mem_sprintD _

theorem libresDeBarra_gps {x : GPS} (limpio : ∀ timestamp, x.valor2 = some timestamp → '|' ∉ timestamp)
    : LibresDeBarra x.piezas := by
  intro texto member
  have decimals (bits : UInt32) : '|' ∉ sprintF bits := fun inside =>
    absurd (sprintF_chars inside) (by decide)
  simp only [GPS.piezas, List.mem_cons, Option.some.injEq, List.not_mem_nil, or_false] at member
  rcases member with rfl | rfl | same | rfl | rfl | rfl | rfl | rfl | rfl
  · exact bar_not_mem_sprintD _
  · decide
  · exact limpio texto same.symm
  · decide
  · exact decimals _
  · decide
  · exact decimals _
  · decide
  · exact bar_not_mem_sprintD _

/-- No piece of a segment has a bar, by the branches of the port. -/
theorem libresDeBarra_cuerpo {fuera : Int32} {verificador : ModulosResponse} {ram : SerialRam}
    {port : UInt8} (limpio : SinBarra ram)
    : LibresDeBarra (cuerpoPiezas fuera verificador ram port) := by
  simp only [cuerpoPiezas]
  split
  · exact libresDeBarra_siResponde _ _
  split
  · exact libresDeBarra_siResponde _ _
  split
  · exact libresDeBarra_siResponde _ _
  split
  · exact libresDeBarra_siResponde _ _
  split
  · exact libresDeBarra_siResponde _ _
  split
  · rename_i gps
    subst gps
    split
    · exact libresDeBarra_gps limpio
    · exact libresDeBarra_siResponde false []
  split
  · exact libresDeBarra_siResponde _ _
  split
  · exact libresDeBarra_siResponde _ _
  · exact fun texto member => absurd member List.not_mem_nil

theorem libresDeBarra_segmento {fuera : Int32} {nvs : Almacen} {verificador : ModulosResponse}
    {ram : SerialRam} {key : KeyValue} (limpio : SinBarra ram)
    : LibresDeBarra (segmentoPiezas fuera nvs verificador ram key) := by
  intro texto member
  simp only [segmentoPiezas, piezasTrasPuerto, List.mem_cons, Option.some.injEq] at member
  rcases member with rfl | rfl | rfl | rfl | inside
  · exact bar_not_mem_sprintD _
  · decide
  · exact bar_not_mem_sprintD _
  · decide
  · exact libresDeBarra_cuerpo limpio texto inside

theorem bar_not_mem_empezado {c : Cuadro} (limpio : SinBarra c.ram) {key : KeyValue} {texto : Str}
    (empezado : c.Empezado key texto)
    : '|' ∉ texto := by
  obtain ⟨nvs, -, escritas, resto, same, rfl⟩ := empezado
  intro member
  obtain ⟨pieza, among, inside⟩ := List.mem_flatten.mp member
  have own : some pieza ∈ segmentoPiezas c.fuera nvs c.verificador c.ram key := by
    rw [same]
    exact List.mem_append_left _ (List.mem_map_of_mem among)
  exact libresDeBarra_segmento limpio pieza own inside

theorem rendido_field {c : Cuadro} (limpio : SinBarra c.ram) {key : KeyValue} {texto : Str}
    (rendido : c.Rendido key texto)
    : texto ≠ [] ∧ '|' ∉ texto := by
  obtain ⟨nvs, -, made⟩ := rendido
  exact segmento_field limpio made

/-- Rendered segments are the fields of their frame, whatever stands behind them. -/
theorem fields_cerrados {c : Cuadro} (limpio : SinBarra c.ram) {hechas : List KeyValue}
    {segmentos : List Str} (hechos : List.Forall₂ c.Rendido hechas segmentos) (cola : Str)
    : fields ['|'] (cerrados segmentos ++ cola) = segmentos ++ fields ['|'] cola := by
  have each (texto : Str) (member : texto ∈ segmentos) : texto ≠ [] ∧ '|' ∉ texto := by
    obtain ⟨i, inside, rfl⟩ := List.getElem_of_mem member
    have inKeys : i < hechas.length := hechos.length_eq ▸ inside
    exact rendido_field limpio (hechos.get inKeys inside)
  rw [cerrados, List.cons_append, fields_sep (by decide)]
  exact fields_closed (fun texto member => (each texto member).1)
    (fun texto member => (each texto member).2) cola

-----------------------------------------------------------------------------------------
-- The steps
-----------------------------------------------------------------------------------------

section Steps

variable {keys hechas faltan : List KeyValue} {key : KeyValue} {e : Escritor} {c : Cuadro}
  {webBuffer abierto texto buffer : Str} {tokens segmentos : List Str} {puntos : PuntoWeb → Str}
  {control : Control}

theorem marco_of_hechos (limpio : SinBarra c.ram) (hechos : List.Forall₂ c.Rendido keys segmentos)
    : Marco keys (cerrados segmentos) := by
  have cut := fields_cerrados limpio hechos []
  have nothing : fields ['|'] [] = [] := rfl
  rw [List.append_nil, nothing, List.append_nil] at cut
  rw [Marco, cut]
  refine Or.inr ⟨c.fuera, c.verificador, c.ram, hechos.imp ?_⟩
  rintro key texto ⟨nvs, -, made⟩
  exact ⟨nvs, made⟩

/-- What has been rendered stays rendered when the storage changes. -/
theorem rendido_nvs {nvs : Almacen} (rendido : c.Rendido key texto)
    : Cuadro.Rendido { c with almacenes := nvs :: c.almacenes } key texto := by
  obtain ⟨otra, member, made⟩ := rendido
  exact ⟨otra, List.mem_cons_of_mem nvs member, made⟩

theorem construye_nvs (construye : Construye keys e c hechas faltan abierto) (nvs : Almacen)
    : Construye keys (Escritor.en { e with nvs := nvs } control)
        { c with almacenes := nvs :: c.almacenes } hechas faltan abierto := by
  obtain ⟨orden, verificador, ram, fuera, -, ⟨segmentos, hechos, web⟩, puntos⟩ := construye
  exact ⟨orden, verificador, ram, fuera, List.mem_cons_self,
    ⟨segmentos, hechos.imp fun _ _ => rendido_nvs, web⟩, puntos⟩

/-- A text that is appended is behind what was open. -/
theorem construye_concatena (construye : Construye keys e c hechas faltan abierto) (texto : Str)
    : Construye keys ((e.concatena texto).en control) c hechas faltan (abierto ++ texto) := by
  obtain ⟨orden, verificador, ram, fuera, nvs, ⟨segmentos, hechos, web⟩, puntos⟩ := construye
  refine ⟨orden, verificador, ram, fuera, nvs, ⟨segmentos, hechos, ?_⟩, puntos⟩
  change e.webBuffer ++ texto = _
  rw [web, List.append_assoc]

/-- A segment with its bar is closed. -/
theorem construye_cierra (construye : Construye keys e c hechas (key :: faltan) (texto ++ ['|']))
    (rendido : c.Rendido key texto)
    : Construye keys (e.en control) c (hechas ++ [key]) faltan [] := by
  obtain ⟨orden, verificador, ram, fuera, nvs, ⟨segmentos, hechos, web⟩, puntos⟩ := construye
  refine ⟨by rw [orden, List.append_assoc, List.singleton_append], verificador, ram, fuera, nvs,
    ⟨segmentos ++ [texto], ?_, ?_⟩, puntos⟩
  · exact List.rel_append hechos (.cons rendido .nil)
  · rw [List.append_nil, ← cerrados_append]
    exact web

/-- All pieces and the bar make a segment. -/
theorem rendido_of_piezas {nvs : Almacen} (member : nvs ∈ c.almacenes) {escritas : List Str}
    (whole : segmentoPiezas c.fuera nvs c.verificador c.ram key ++ [some ['|']]
      = escritas.map some ++ [])
    : ∃ texto, c.Rendido key texto ∧ escritas.flatten = texto ++ ['|'] := by
  have made := congrArg joined whole
  rw [List.append_nil, joined_map_some, joined_append_last] at made
  obtain ⟨texto, found, same⟩ := Option.map_eq_some_iff.mp made
  refine ⟨texto, ⟨nvs, member, ?_⟩, same.symm⟩
  rw [← junta_segmento, junta, found]

/-- A text that is appended to an endpoint is behind what was open there. -/
theorem reparte_conPunto {antes despues : PuntoWeb → Str}
    (reparte : Reparte keys webBuffer puntos c faltan tokens antes hechas segmentos)
    (punto : PuntoWeb) (same : ∀ otro, otro ≠ punto → despues otro = antes otro)
    (longer : despues punto = antes punto ++ texto)
    : Reparte keys webBuffer (Function.update puntos punto (puntos punto ++ texto)) c faltan tokens
        despues hechas segmentos := by
  obtain ⟨orden, web, hechos, vienen, dados⟩ := reparte
  refine ⟨orden, web, hechos, vienen, fun otro => ?_⟩
  by_cases here : otro = punto
  · subst here
    rw [Function.update_self, longer, dados, List.append_assoc]
  · rw [Function.update_of_ne here, same otro here, dados]

/-- A number is handed out to the endpoints that have its key, and only once to each. -/
theorem destinos_key (key : KeyValue) (punto : PuntoWeb)
    : (destinos key.num).Nodup ∧ (punto ∈ destinos key.num ↔ key ∈ punto.grupo) := by
  have own (punto : PuntoWeb)
      : (punto.grupo.filter fun otra => key.num = otra.num) = if key ∈ punto.grupo then [key] else [] := by
    have same : (fun otra : KeyValue => decide (key.num = otra.num)) = fun otra => decide (otra = key) := by
      funext otra
      exact decide_eq_decide.mpr ⟨fun numbers => (num_injective numbers).symm, fun h => by rw [h]⟩
    rw [same, List.filter_eq]
    split
    · next member => rw [List.count_eq_one_of_mem (grupo_wellFormed.1 punto) member, List.replicate_one]
    · next missing => rw [List.count_eq_zero_of_not_mem missing, List.replicate_zero]
  have counted (punto : PuntoWeb)
      : (destinos key.num).count punto = if key ∈ punto.grupo then 1 else 0 := by
    rw [count_destinos, own]
    split <;> rfl
  refine ⟨List.nodup_iff_count_le_one.mpr fun punto => ?_, ?_⟩
  · rw [counted]
    split <;> decide
  · rw [← List.count_pos_iff, counted]
    split <;> simp [*]

/-- The number in front of a segment is the key's. -/
theorem numero_rendido (rendido : c.Rendido key texto)
    : ∃ primero, (strtok [':'] (some texto)).1 = some primero
        ∧ (atoi primero).toUInt32.toUInt8 = key.num := by
  obtain ⟨nvs, -, made⟩ := rendido
  obtain ⟨interior, -, last⟩ := ok_of_bind made
  refine ⟨sprintD key.num.toNat, ?_, numero_leido key⟩
  obtain rfl := Except.ok.inj last
  rw [List.append_assoc, List.cons_append,
    strtok_run (sprintD_ne_nil _) (colon_not_mem_sprintD _) (by decide)]

/-- The endpoint that gets the token next does not have it. -/
theorem Dados.fresco {punto : PuntoWeb} {dados resto : List PuntoWeb}
    (partidos : Dados key dados (punto :: resto))
    : punto ∉ dados := by
  have once := (destinos_key key punto).1
  rw [partidos, List.nodup_append] at once
  exact fun member => once.2.2 punto member punto List.mem_cons_self rfl

/-- The parts of an endpoint are the fields of its text, whatever stands behind them. -/
theorem fields_partes (limpio : SinBarra c.ram) (hechos : List.Forall₂ c.Rendido hechas segmentos)
    (punto : PuntoWeb) (cola : Str)
    : fields ['|'] (cerrados (punto.partes hechas segmentos) ++ cola)
      = punto.partes hechas segmentos ++ fields ['|'] cola := by
  have each (texto : Str) (member : texto ∈ punto.partes hechas segmentos)
      : texto ≠ [] ∧ '|' ∉ texto := by
    obtain ⟨⟨key, _⟩, own, rfl⟩ := List.mem_map.mp member
    exact rendido_field limpio ((List.forall₂_iff_zip.mp hechos).2 (List.mem_filter.mp own).1)
  rw [cerrados, List.cons_append, fields_sep (by decide)]
  exact fields_closed (fun texto member => (each texto member).1)
    (fun texto member => (each texto member).2) cola

theorem partes_append (punto : PuntoWeb) (same : hechas.length = segmentos.length)
    (key : KeyValue) (texto : Str)
    : punto.partes (hechas ++ [key]) (segmentos ++ [texto])
      = punto.partes hechas segmentos ++ if key ∈ punto.grupo then [texto] else [] := by
  rw [PuntoWeb.partes, List.zip_append same, List.filter_append, List.map_append]
  congr 1
  by_cases own : key ∈ punto.grupo <;> simp [own]

/-- A token that all its endpoints have has been handed out. -/
theorem reparte_dado
    (reparte : Reparte keys webBuffer puntos c (key :: faltan) (buffer :: tokens)
      (fun punto => if punto ∈ destinos key.num then buffer ++ ['|'] else []) hechas segmentos)
    : Reparte keys webBuffer puntos c faltan tokens (fun _ => []) (hechas ++ [key])
        (segmentos ++ [buffer]) := by
  obtain ⟨orden, web, hechos, vienen, dados⟩ := reparte
  obtain ⟨rendido, vienen⟩ := List.forall₂_cons.mp vienen
  refine ⟨by rw [orden, List.append_assoc, List.singleton_append], ?_,
    List.rel_append hechos (.cons rendido .nil), vienen, fun punto => ?_⟩
  · rw [List.append_assoc, List.singleton_append]
    exact web
  · rw [partes_append punto hechos.length_eq, List.append_nil]
    refine (dados punto).trans ?_
    simp only [(destinos_key key punto).2]
    split
    · rw [cerrados_append]
    · rw [List.append_nil, List.append_nil]

/-- The waits leave the texts as they are. -/
theorem coherente_esperas {atof : Str → UInt32} (coherente : Coherente keys e c)
    {temperatura digitalInput analogico : Option (List Char)} {fuera : Int32} {e' : Escritor}
    (taken : e.paso atof (.esperas temperatura digitalInput analogico fuera) = some e')
    : Coherente keys e' c := by
  by_cases espera : e.control = .espera
  · simp only [Escritor.paso, espera] at taken
    cases waited : esperas atof e.txTask ⟨temperatura, digitalInput, analogico, e.nvs, fuera⟩ with
    | error fault =>
        rw [waited] at taken
        cases taken
    | ok atendida =>
        rw [waited] at taken
        obtain rfl := Option.some.inj taken
        obtain ⟨claves, limpio, rendida, publicado, textos⟩ := coherente
        simp only [TextosEn, espera] at textos
        have kept : SinBarra atendida.2 := by
          obtain ⟨first, received, waited⟩ := ok_of_bind waited
          obtain ⟨second, received', waited⟩ := ok_of_bind waited
          obtain ⟨third, received'', waited⟩ := ok_of_bind waited
          obtain rfl := Except.ok.inj waited
          exact (recibir_cases received'').2 ((recibir_cases received').2
            ((recibir_cases received).2 limpio))
        refine ⟨claves, kept, rendida, publicado, ?_⟩
        by_cases asked : atendida.1.reconstruye = true
        · simp only [TextosEn, if_pos asked]
          exact textos
        · simp only [TextosEn, if_neg asked]
          exact textos
  · have still := (esperas_ocupada espera temperatura digitalInput analogico fuera atof e none).1
    rw [← Option.some.inj (still.symm.trans taken)]
    exact coherente

/-- A write to the storage leaves the texts as they are. -/
theorem coherente_nvs (coherente : Coherente keys e c) (nvs : Almacen) (e' : Escritor)
    : Coherente keys { e with nvs := nvs } (Cuadro.nota e (.nvs nvs) e' c) := by
  obtain ⟨claves, limpio, rendida, publicado, textos⟩ := coherente
  cases building : e.control.construye with
  | true =>
      have noted : Cuadro.nota e (.nvs nvs) e' c = { c with almacenes := nvs :: c.almacenes } :=
        if_pos building
      rw [noted]
      refine ⟨claves, limpio, rendida, publicado, ?_⟩
      cases here : e.control with
      | clave faltan =>
          simp only [TextosEn, here] at textos ⊢
          exact textos.imp fun _ construye => construye_nvs construye nvs
      | dosPuntos key faltan =>
          simp only [TextosEn, here] at textos ⊢
          exact textos.imp fun _ construye => construye_nvs construye nvs
      | puerto key faltan =>
          simp only [TextosEn, here] at textos ⊢
          exact textos.imp fun _ construye => construye_nvs construye nvs
      | piezas vienen faltan =>
          simp only [TextosEn, here] at textos ⊢
          obtain ⟨hechas, key, escritas, construye, otra, member, whole⟩ := textos
          exact ⟨hechas, key, escritas, construye_nvs construye nvs, otra,
            List.mem_cons_of_mem nvs member, whole⟩
      | _ =>
          rw [here] at building
          cases building
  | false =>
      have noted : Cuadro.nota e (.nvs nvs) e' c = c := if_neg (by rw [building]; decide)
      rw [noted]
      refine ⟨claves, limpio, rendida, publicado, ?_⟩
      cases here : e.control with
      | clave | dosPuntos | puerto | piezas =>
          rw [here] at building
          cases building
      | _ =>
          simp only [TextosEn, here] at textos ⊢
          exact textos

/-- A statement leaves the texts as they should be behind it, by where the task is. -/
theorem coherente_tx {e' : Escritor} (coherente : Coherente keys e c) (taken : e.tx = some e')
    : Coherente keys e' (Cuadro.nota e .tx e' c) := by
  obtain ⟨claves, limpio, rendida, publicado, textos⟩ := coherente
  cases here : e.control with
  | espera =>
      rw [tx_espera here] at taken
      obtain rfl := Option.some.inj taken
      simp only [Cuadro.nota, here]
      exact ⟨claves, limpio, rendida, publicado, textos⟩
  | abre =>
      simp only [Escritor.tx, here] at taken
      simp only [TextosEn, here] at textos
      obtain rfl := Option.some.inj taken
      simp only [Cuadro.nota, here]
      refine ⟨claves, limpio, limpio, publicado, ?_⟩
      exact ⟨[], claves.symm, rfl, rfl, rfl, List.mem_singleton.mpr rfl, ⟨[], .nil, rfl⟩,
        textos.2⟩
  | clave faltan =>
      simp only [TextosEn, here] at textos
      obtain ⟨hechas, construye⟩ := textos
      cases faltan with
      | nil =>
          simp only [Escritor.tx, here] at taken
          obtain rfl := Option.some.inj taken
          simp only [Cuadro.nota, here]
          refine ⟨claves, limpio, rendida, publicado, ?_⟩
          have all := construye.orden
          rw [List.append_nil] at all
          obtain rfl := all
          refine ⟨construye.web, fun punto => Or.inl ⟨?_, construye.puntos punto⟩⟩
          cases punto <;> decide
      | cons key faltan =>
          simp only [Escritor.tx, here] at taken
          obtain rfl := Option.some.inj taken
          simp only [Cuadro.nota, here]
          exact ⟨claves, limpio, rendida, publicado, hechas, construye_concatena construye _⟩
  | dosPuntos key faltan =>
      simp only [TextosEn, here] at textos
      obtain ⟨hechas, construye⟩ := textos
      simp only [Escritor.tx, here] at taken
      obtain rfl := Option.some.inj taken
      simp only [Cuadro.nota, here]
      exact ⟨claves, limpio, rendida, publicado, hechas, construye_concatena construye _⟩
  | puerto key faltan =>
      simp only [TextosEn, here] at textos
      obtain ⟨hechas, construye⟩ := textos
      simp only [Escritor.tx, here] at taken
      obtain rfl := Option.some.inj taken
      simp only [Cuadro.nota, here]
      refine ⟨claves, limpio, rendida, publicado, hechas, key, [sprintD key.num.toNat, [':']], ?_,
        e.nvs, construye.nvs, ?_⟩
      · exact ⟨construye.orden, construye.verificador, construye.ram, construye.fuera,
          construye.nvs, construye.web, construye.puntos⟩
      · rw [construye.verificador, construye.ram, construye.fuera]
        rfl
  | piezas vienen faltan =>
      simp only [TextosEn, here] at textos
      obtain ⟨hechas, key, escritas, construye, nvs, member, whole⟩ := textos
      cases vienen with
      | nil =>
          simp only [Escritor.tx, here] at taken
          obtain rfl := Option.some.inj taken
          simp only [Cuadro.nota, here]
          obtain ⟨texto, rendido, same⟩ := rendido_of_piezas member whole
          rw [same] at construye
          exact ⟨claves, limpio, rendida, publicado, _, construye_cierra construye rendido⟩
      | cons pieza vienen =>
          cases pieza with
          | none =>
              simp only [Escritor.tx, here] at taken
              cases taken
          | some texto =>
              simp only [Escritor.tx, here] at taken
              obtain rfl := Option.some.inj taken
              simp only [Cuadro.nota, here]
              have longer : Construye keys ((e.concatena texto).en (.piezas vienen faltan)) c hechas
                  (key :: faltan) (escritas.flatten ++ texto) :=
                construye_concatena construye texto
              refine ⟨claves, limpio, rendida, publicado, hechas, key, escritas ++ [texto], ?_, nvs,
                member, ?_⟩
              · rw [List.flatten_append, List.flatten_singleton]
                exact longer
              · rw [whole, List.map_append, List.append_assoc]
                rfl
  | borra faltan =>
      simp only [TextosEn, here] at textos
      obtain ⟨web, puntos⟩ := textos
      cases faltan with
      | nil =>
          simp only [Escritor.tx, here] at taken
          obtain rfl := Option.some.inj taken
          simp only [Cuadro.nota, here]
          refine ⟨claves, limpio, rendida, publicado, web, fun punto => ?_⟩
          exact (puntos punto).resolve_left fun still => absurd still.1 List.not_mem_nil
      | cons primero faltan =>
          simp only [Escritor.tx, here] at taken
          obtain rfl := Option.some.inj taken
          simp only [Cuadro.nota, here]
          refine ⟨claves, limpio, rendida, publicado, web, fun punto => ?_⟩
          by_cases own : punto = primero
          · subst own
            exact Or.inr (Function.update_self ..)
          · have kept : (e.conPunto primero ['|']).puntos punto = e.puntos punto :=
              Function.update_of_ne own ..
            rcases puntos punto with ⟨still, lleno⟩ | emptied
            · refine Or.inl ⟨(List.mem_cons.mp still).resolve_left own, ?_⟩
              exact (congrArg (fields ['|']) kept).trans lleno
            · exact Or.inr (kept.trans emptied)
  | copia =>
      simp only [TextosEn, here] at textos
      obtain ⟨⟨segmentos, hechos, web⟩, puntos⟩ := textos
      simp only [Escritor.tx, here] at taken
      obtain rfl := Option.some.inj taken
      simp only [Cuadro.nota, here]
      have cut : (splitSensors e.webBuffer ['|']).1 = segmentos := by
        have whole := fields_cerrados rendida hechos []
        have nothing : fields ['|'] [] = [] := rfl
        rw [splitSensors_fst, web, whole, nothing, List.append_nil]
      refine ⟨claves, limpio, rendida, publicado, keys, [], [], rfl, ?_, .nil, ?_, puntos⟩
      · rw [cut, List.nil_append]
        exact web.trans (List.append_nil _)
      · rwa [cut]
  | token tokens =>
      simp only [TextosEn, here] at textos
      obtain ⟨faltan, hechas, segmentos, reparte⟩ := textos
      cases tokens with
      | nil =>
          simp only [Escritor.tx, here] at taken
          obtain rfl := Option.some.inj taken
          simp only [Cuadro.nota, here]
          obtain ⟨orden, web, hechos, vienen, dados⟩ := reparte
          obtain rfl := List.forall₂_nil_right_iff.mp vienen
          rw [List.append_nil] at orden web
          obtain rfl := orden
          have nothing : fields ['|'] [] = [] := rfl
          have cut : fields ['|'] e.webBuffer = segmentos := by
            have whole := fields_cerrados rendida hechos []
            rwa [List.append_nil, nothing, List.append_nil, ← web] at whole
          have marco := marco_of_hechos rendida hechos
          rw [← web] at marco
          refine ⟨claves, limpio, rendida, marco, ?_, fun punto => ?_⟩
          · exact Or.inr ⟨segmentos, hechos, web.trans (List.append_nil _).symm⟩
          · rw [Lleno, cut]
            exact (congrArg (fields ['|']) (dados punto)).trans
              ((fields_partes rendida hechos punto []).trans (List.append_nil _))
      | cons buffer tokens =>
          obtain ⟨key, faltan, rendido, vienen, rfl⟩ := List.forall₂_cons_right_iff.mp reparte.vienen
          obtain ⟨primero, cut, numero⟩ := numero_rendido rendido
          simp only [Escritor.tx, here, cut, numero, Option.map_some] at taken
          obtain rfl := Option.some.inj taken
          simp only [Cuadro.nota, here]
          refine ⟨claves, limpio, rendida, publicado, key, faltan, [], rfl, hechas, segmentos, ?_⟩
          simp only [List.not_mem_nil, if_false]
          exact reparte
  | anade resto buffer tokens =>
      simp only [TextosEn, here] at textos
      obtain ⟨key, faltan, dados, partidos, hechas, segmentos, reparte⟩ := textos
      cases resto with
      | nil =>
          simp only [Escritor.tx, here] at taken
          obtain rfl := Option.some.inj taken
          simp only [Cuadro.nota, here]
          refine ⟨claves, limpio, rendida, publicado, faltan, hechas ++ [key], segmentos ++ [buffer],
            reparte_dado ?_⟩
          rw [partidos, List.append_nil]
          exact reparte
      | cons punto resto =>
          simp only [Escritor.tx, here] at taken
          obtain rfl := Option.some.inj taken
          simp only [Cuadro.nota, here]
          have fresh : punto ∉ dados := partidos.fresco
          refine ⟨claves, limpio, rendida, publicado, key, faltan, dados, partidos, hechas, segmentos,
            reparte_conPunto reparte punto ?_ ?_⟩
          · intro otro different
            rw [if_neg different]
          · rw [if_neg fresh, if_neg fresh, if_pos rfl, List.nil_append]
  | cierra punto resto buffer tokens =>
      simp only [TextosEn, here] at textos
      obtain ⟨key, faltan, dados, partidos, hechas, segmentos, reparte⟩ := textos
      simp only [Escritor.tx, here] at taken
      obtain rfl := Option.some.inj taken
      simp only [Cuadro.nota, here]
      have fresh : punto ∉ dados := partidos.fresco
      refine ⟨claves, limpio, rendida, publicado, key, faltan, dados ++ [punto], ?_, hechas, segmentos,
        reparte_conPunto reparte punto ?_ ?_⟩
      · rw [Dados, List.append_assoc, List.singleton_append]
        exact partidos
      · intro otro different
        simp only [List.mem_append, List.mem_singleton, different, or_false, if_false]
      · rw [if_pos (List.mem_append_right _ (List.mem_singleton.mpr rfl)), if_neg fresh, if_pos rfl]

theorem coherente_paso {atof : Str → UInt32} {entrada : Entrada} {e' : Escritor}
    (coherente : Coherente keys e c) (taken : e.paso atof entrada = some e')
    : Coherente keys e' (Cuadro.nota e entrada e' c) := by
  cases entrada with
  | esperas temperatura digitalInput analogico fuera => exact coherente_esperas coherente taken
  | tx => exact coherente_tx coherente taken
  | nvs nvs =>
      obtain rfl := Option.some.inj taken
      exact coherente_nvs coherente nvs _

end Steps

-----------------------------------------------------------------------------------------
-- What is read
-----------------------------------------------------------------------------------------

/-- The account of a run from the beginning of the task. -/
def Cuadro.de (atof : Str → UInt32) (nvs : Almacen) (keys : List KeyValue)
    (entradas : List Entrada)
    : Cuadro :=
  (escritor atof).account Cuadro.nota (Escritor.inicial nvs keys) .inicial entradas

theorem coherente_inicial (nvs : Almacen) (keys : List KeyValue)
    : Coherente keys (Escritor.inicial nvs keys) .inicial := by
  have limpio : SinBarra SerialRam.inicial := by
    intro timestamp found
    cases found
  refine ⟨rfl, limpio, limpio, Or.inl (by decide), Or.inl ⟨rfl, rfl⟩, fun punto => ?_⟩
  have empty : fields ['|'] ['|'] = [] := by decide
  simp only [Lleno, Cuadro.inicial, empty, PuntoWeb.partes, List.zip_nil_right]
  rfl

/-- The texts are as they should be at every moment of every run. -/
theorem coherente_run {atof : Str → UInt32} {nvs : Almacen} {keys : List KeyValue}
    {entradas : List Entrada} {e : Escritor}
    (run : (escritor atof).run (Escritor.inicial nvs keys) entradas = some e)
    : Coherente keys e (Cuadro.de atof nvs keys entradas) := by
  have preserved (s : Escritor) (c : Cuadro) (entrada : Entrada) (next : Escritor)
      (coherente : Coherente keys s c) (taken : (escritor atof).step s entrada = some next)
      : Coherente keys next (Cuadro.nota s entrada next c) :=
    coherente_paso coherente taken
  exact Machine.invariant_account preserved (coherente_inicial nvs keys) run

/-- What a reader that splits the web frame at its bars finds: segments of the first keys, and
what has been written of the next one.
-/
def Cuadro.Leido (c : Cuadro) (keys : List KeyValue) (webBuffer : Str) (hechas : List KeyValue)
    (resto : List Str)
    : Prop :=
  hechas <+: keys
  ∧ (∃ segmentos, List.Forall₂ c.Rendido hechas segmentos
    ∧ fields ['|'] webBuffer = segmentos ++ resto)
  ∧ (resto = [] ∨ ∃ key abierto, hechas ++ [key] <+: keys ∧ resto = [abierto] ∧ c.Empezado key abierto)

section Read

variable {keys hechas faltan : List KeyValue} {key : KeyValue} {c : Cuadro} {webBuffer abierto : Str}

theorem leido_cerrado (limpio : SinBarra c.ram) (first : hechas <+: keys)
    (lleva : c.Lleva webBuffer hechas [])
    : c.Leido keys webBuffer hechas [] := by
  obtain ⟨segmentos, hechos, rfl⟩ := lleva
  exact ⟨first, ⟨segmentos, hechos, fields_cerrados limpio hechos []⟩, Or.inl rfl⟩

/-- What has been written of a segment is one text more, unless nothing has been written. -/
theorem leido_abierto (limpio : SinBarra c.ram) (orden : keys = hechas ++ key :: faltan)
    (lleva : c.Lleva webBuffer hechas abierto) (empezado : c.Empezado key abierto)
    : ∃ resto, c.Leido keys webBuffer hechas resto := by
  by_cases empty : abierto = []
  · subst empty
    exact ⟨[], leido_cerrado limpio ⟨key :: faltan, orden.symm⟩ lleva⟩
  · obtain ⟨segmentos, hechos, rfl⟩ := lleva
    refine ⟨[abierto], ⟨key :: faltan, orden.symm⟩, ⟨segmentos, hechos, ?_⟩,
      Or.inr ⟨key, abierto, ⟨faltan, ?_⟩, rfl, empezado⟩⟩
    · rw [fields_cerrados limpio hechos, fields_open (bar_not_mem_empezado limpio empezado), if_neg empty]
    · rw [orden, List.append_assoc, List.singleton_append]

/-- Pieces of a segment, but not its bar, have been written while there is something to come. -/
theorem empezado_of_piezas {nvs : Almacen} (member : nvs ∈ c.almacenes) {escritas : List Str}
    {vienen : List Pieza} (more : vienen ≠ [])
    (whole : segmentoPiezas c.fuera nvs c.verificador c.ram key ++ [some ['|']]
      = escritas.map some ++ vienen)
    : c.Empezado key escritas.flatten := by
  obtain ⟨antes, ultima, rfl⟩ := (List.eq_nil_or_concat vienen).resolve_left more
  rw [List.concat_eq_append, ← List.append_assoc] at whole
  exact ⟨nvs, member, escritas, antes, (List.append_inj' whole rfl).1, rfl⟩

end Read

/-- The web frame is readable at every moment, by where the task is. -/
theorem coherente_webBuffer {keys : List KeyValue} {e : Escritor} {c : Cuadro}
    (coherente : Coherente keys e c)
    : ∃ hechas resto, c.Leido keys e.webBuffer hechas resto
        ∧ (e.control.construye = false → resto = [] ∧ (hechas = keys ∨ c.almacenes = [])) := by
  obtain ⟨-, -, limpio, -, textos⟩ := coherente
  have complete (lleva : c.Lleva e.webBuffer keys [])
      : ∃ hechas resto, c.Leido keys e.webBuffer hechas resto
        ∧ (e.control.construye = false → resto = [] ∧ (hechas = keys ∨ c.almacenes = [])) :=
    ⟨keys, [], leido_cerrado limpio List.prefix_rfl lleva, fun _ => ⟨rfl, Or.inl rfl⟩⟩
  have resting (reposa : Reposa keys e.webBuffer c)
      : ∃ hechas resto, c.Leido keys e.webBuffer hechas resto
        ∧ (e.control.construye = false → resto = [] ∧ (hechas = keys ∨ c.almacenes = [])) := by
    rcases reposa with ⟨none, frame⟩ | lleva
    · have nothing : c.Lleva e.webBuffer [] [] := ⟨[], .nil, frame⟩
      exact ⟨[], [], leido_cerrado limpio List.nil_prefix nothing, fun _ => ⟨rfl, Or.inr none⟩⟩
    · exact complete lleva
  have handing {hechas faltan : List KeyValue} {tokens segmentos : List Str}
      {abierto : PuntoWeb → Str}
      (reparte : Reparte keys e.webBuffer e.puntos c faltan tokens abierto hechas segmentos)
      : c.Lleva e.webBuffer keys [] := by
    refine ⟨segmentos ++ tokens, ?_, by rw [reparte.web, List.append_nil]⟩
    rw [reparte.orden]
    exact List.rel_append reparte.hechos reparte.vienen
  cases here : e.control with
  | espera =>
      simp only [TextosEn, here] at textos
      rw [← here]
      exact resting textos.1
  | abre =>
      simp only [TextosEn, here] at textos
      rw [← here]
      exact resting textos.1
  | clave faltan =>
      simp only [TextosEn, here] at textos
      obtain ⟨hechas, construye⟩ := textos
      exact ⟨hechas, [], leido_cerrado limpio ⟨faltan, construye.orden.symm⟩ construye.web,
        by simp [Control.construye]⟩
  | dosPuntos key faltan =>
      simp only [TextosEn, here] at textos
      obtain ⟨hechas, construye⟩ := textos
      have empezado : c.Empezado key (sprintD key.num.toNat) :=
        ⟨e.nvs, construye.nvs, [sprintD key.num.toNat], _, rfl, (List.append_nil _).symm⟩
      obtain ⟨resto, leido⟩ := leido_abierto limpio construye.orden construye.web empezado
      exact ⟨hechas, resto, leido, by simp [Control.construye]⟩
  | puerto key faltan =>
      simp only [TextosEn, here] at textos
      obtain ⟨hechas, construye⟩ := textos
      have empezado : c.Empezado key (sprintD key.num.toNat ++ [':']) :=
        ⟨e.nvs, construye.nvs, [sprintD key.num.toNat, [':']], _, rfl, rfl⟩
      obtain ⟨resto, leido⟩ := leido_abierto limpio construye.orden construye.web empezado
      exact ⟨hechas, resto, leido, by simp [Control.construye]⟩
  | piezas vienen faltan =>
      simp only [TextosEn, here] at textos
      obtain ⟨hechas, key, escritas, construye, otra, member, whole⟩ := textos
      by_cases done : vienen = []
      · subst done
        obtain ⟨texto, rendido, same⟩ := rendido_of_piezas member whole
        rw [same] at construye
        have closed : Construye keys (e.en e.control) c (hechas ++ [key]) faltan [] :=
          construye_cierra construye rendido
        exact ⟨hechas ++ [key], [], leido_cerrado limpio ⟨faltan, closed.orden.symm⟩ closed.web,
          by simp [Control.construye]⟩
      · have empezado := empezado_of_piezas member done whole
        obtain ⟨resto, leido⟩ := leido_abierto limpio construye.orden construye.web empezado
        exact ⟨hechas, resto, leido, by simp [Control.construye]⟩
  | borra faltan =>
      simp only [TextosEn, here] at textos
      rw [← here]
      exact complete textos.1
  | copia =>
      simp only [TextosEn, here] at textos
      rw [← here]
      exact complete textos.1
  | token tokens =>
      simp only [TextosEn, here] at textos
      obtain ⟨faltan, hechas, segmentos, reparte⟩ := textos
      rw [← here]
      exact complete (handing reparte)
  | anade resto buffer tokens =>
      simp only [TextosEn, here] at textos
      obtain ⟨key, faltan, dados, -, hechas, segmentos, reparte⟩ := textos
      rw [← here]
      exact complete (handing reparte)
  | cierra actual resto buffer tokens =>
      simp only [TextosEn, here] at textos
      obtain ⟨key, faltan, dados, -, hechas, segmentos, reparte⟩ := textos
      rw [← here]
      exact complete (handing reparte)

/-- A reader that splits the web frame at its bars finds the whole segments of the first keys, in
order, and behind them at most one more text, which is what has been written so far of the segment
of the next key. Outside of `web_buffer_constructor` it finds the segments of all keys, once there
was a frame. Witness: what is known of the texts, by where the task is.
-/
theorem lectura_webBuffer (atof : Str → UInt32) (nvs : Almacen) (keys : List KeyValue)
    {entradas : List Entrada} {e : Escritor}
    (run : (escritor atof).run (Escritor.inicial nvs keys) entradas = some e)
    : ∃ hechas resto,
        (Cuadro.de atof nvs keys entradas).Leido keys e.webBuffer hechas resto
        ∧ (e.control.construye = false
          → resto = [] ∧ (hechas = keys ∨ (Cuadro.de atof nvs keys entradas).almacenes = [])) :=
  coherente_webBuffer (coherente_run run)

/-- The storage is emptied while the segment of the tank is written. -/
theorem lectura_webBuffer_a_medias
    : ∃ e, (escritor fun _ => 0).run (Escritor.inicial conTanque [.temptrans, .greywater])
          (temperaturaAtendida :: List.replicate 13 .tx ++ [.nvs .empty])
        = some e
      ∧ e.webBuffer = "|2:0:21|33:6".toList
      ∧ ∃ hechas resto,
        (Cuadro.de (fun _ => 0) conTanque [.temptrans, .greywater]
          (temperaturaAtendida :: List.replicate 13 .tx ++ [.nvs .empty])).Leido
          [.temptrans, .greywater] e.webBuffer hechas resto
        ∧ (e.control.construye = false
          → resto = [] ∧ (hechas = [.temptrans, .greywater]
            ∨ (Cuadro.de (fun _ => 0) conTanque [.temptrans, .greywater]
              (temperaturaAtendida :: List.replicate 13 .tx ++ [.nvs .empty])).almacenes = [])) := by
  have shown : ((escritor fun _ => 0).run (Escritor.inicial conTanque [.temptrans, .greywater])
      (temperaturaAtendida :: List.replicate 13 .tx ++ [.nvs .empty])).map (·.webBuffer)
      = some "|2:0:21|33:6".toList := by
    decide +kernel
  obtain ⟨e, run, same⟩ := Option.map_eq_some_iff.mp shown
  exact ⟨e, run, same, lectura_webBuffer _ _ _ run⟩

/-- What an endpoint shows of a frame of which the tokens of the first keys have been handed
out.
-/
def Repartido (keys : List KeyValue) (webBuffer : Str) (n : Nat) (punto : PuntoWeb) (texto : Str)
    : Prop :=
  fields ['|'] texto = punto.partes (keys.take n) ((fields ['|'] webBuffer).take n)

section Shared

variable {keys hechas faltan : List KeyValue} {key : KeyValue} {c : Cuadro} {webBuffer buffer : Str}
  {tokens segmentos : List Str} {puntos abierto : PuntoWeb → Str}

/-- All tokens of the frame that is handed out. -/
theorem reparte_lleva
    (reparte : Reparte keys webBuffer puntos c faltan tokens abierto hechas segmentos)
    : List.Forall₂ c.Rendido keys (segmentos ++ tokens) := by
  rw [reparte.orden]
  exact List.rel_append reparte.hechos reparte.vienen

theorem fields_reparte (limpio : SinBarra c.ram)
    (reparte : Reparte keys webBuffer puntos c faltan tokens abierto hechas segmentos)
    : fields ['|'] webBuffer = segmentos ++ tokens := by
  have cut := fields_cerrados limpio (reparte_lleva reparte) []
  have nothing : fields ['|'] [] = [] := rfl
  rwa [List.append_nil, ← reparte.web, nothing, List.append_nil] at cut

/-- An endpoint without anything behind its parts shows those of the keys that are done. -/
theorem repartido_hechas (limpio : SinBarra c.ram)
    (reparte : Reparte keys webBuffer puntos c faltan tokens abierto hechas segmentos)
    {punto : PuntoWeb} (nothing : abierto punto = [])
    : Repartido keys webBuffer hechas.length punto (puntos punto) := by
  have cut := fields_partes limpio reparte.hechos punto []
  have size := reparte.hechos.length_eq
  rw [Repartido, fields_reparte limpio reparte, reparte.orden, List.take_left, size, List.take_left,
    reparte.dados, nothing, cut]
  exact List.append_nil _

/-- An endpoint that has the current token shows it, with its bar or without. -/
theorem repartido_actual (limpio : SinBarra c.ram)
    (reparte : Reparte keys webBuffer puntos c (key :: faltan) (buffer :: tokens) abierto hechas
      segmentos)
    {punto : PuntoWeb} (own : key ∈ punto.grupo)
    (given : abierto punto = buffer ++ ['|'] ∨ abierto punto = buffer)
    : Repartido keys webBuffer (hechas ++ [key]).length punto (puntos punto) := by
  obtain ⟨rendido, -⟩ := List.forall₂_cons.mp reparte.vienen
  obtain ⟨nonempty, free⟩ := rendido_field limpio rendido
  have alone : fields ['|'] buffer = [buffer] := by rw [fields_open free, if_neg nonempty]
  have closed : fields ['|'] (buffer ++ ['|']) = [buffer] := by
    have nothing : fields ['|'] [] = [] := rfl
    have own : (∀ part ∈ [buffer], part ≠ []) ∧ ∀ part ∈ [buffer], '|' ∉ part := by
      simpa using ⟨nonempty, free⟩
    simpa [nothing] using fields_closed own.1 own.2 []
  have behind : fields ['|'] (abierto punto) = [buffer] := by
    rcases given with same | same <;> rw [same]
    · exact closed
    · exact alone
  have size : (hechas ++ [key]).length = (segmentos ++ [buffer]).length := by
    rw [List.length_append, List.length_append, reparte.hechos.length_eq]
    rfl
  have keysTaken : keys.take (hechas ++ [key]).length = hechas ++ [key] := by
    rw [reparte.orden, ← List.singleton_append (l := faltan), ← List.append_assoc, List.take_left]
  have tokensTaken : (fields ['|'] webBuffer).take (hechas ++ [key]).length = segmentos ++ [buffer] := by
    rw [fields_reparte limpio reparte, ← List.singleton_append (l := tokens), ← List.append_assoc, size,
      List.take_left]
  rw [Repartido, keysTaken, tokensTaken, partes_append punto reparte.hechos.length_eq, if_pos own,
    reparte.dados, fields_partes limpio reparte.hechos, behind]

end Shared

/-- What an endpoint shows at any moment. -/
def Mostrado (keys : List KeyValue) (e : Escritor) (punto : PuntoWeb) : Prop :=
  (∃ webBuffer, Marco keys webBuffer
    ∧ fields ['|'] (e.puntos punto) = punto.partes keys (fields ['|'] webBuffer))
  ∨ e.control.reparte = true ∧ Marco keys e.webBuffer
    ∧ ∃ n, Repartido keys e.webBuffer n punto (e.puntos punto)

/-- The endpoints are readable at every moment, by where the task is. -/
theorem coherente_puntos {keys : List KeyValue} {e : Escritor} {c : Cuadro}
    (coherente : Coherente keys e c) (punto : PuntoWeb)
    : Mostrado keys e punto := by
  obtain ⟨-, -, limpio, publicado, textos⟩ := coherente
  rw [Mostrado]
  have emptied (lleva : c.Lleva e.webBuffer keys []) (bar : e.puntos punto = ['|'])
      : Marco keys e.webBuffer ∧ ∃ n, Repartido keys e.webBuffer n punto (e.puntos punto) := by
    obtain ⟨segmentos, hechos, web⟩ := lleva
    rw [List.append_nil] at web
    refine ⟨web ▸ marco_of_hechos limpio hechos, 0, ?_⟩
    rw [Repartido, bar]
    rfl
  have handing {hechas faltan : List KeyValue} {tokens segmentos : List Str}
      {abierto : PuntoWeb → Str}
      (reparte : Reparte keys e.webBuffer e.puntos c faltan tokens abierto hechas segmentos)
      : Marco keys e.webBuffer := by
    rw [reparte.web]
    exact marco_of_hechos limpio (reparte_lleva reparte)
  cases here : e.control with
  | espera | abre =>
      simp only [TextosEn, here] at textos
      exact Or.inl ⟨c.publicado, publicado, textos.2 punto⟩
  | clave | dosPuntos | puerto =>
      simp only [TextosEn, here] at textos
      obtain ⟨hechas, construye⟩ := textos
      exact Or.inl ⟨c.publicado, publicado, construye.puntos punto⟩
  | piezas vienen faltan =>
      simp only [TextosEn, here] at textos
      obtain ⟨hechas, key, escritas, construye, -⟩ := textos
      exact Or.inl ⟨c.publicado, publicado, construye.puntos punto⟩
  | borra faltan =>
      simp only [TextosEn, here] at textos
      rcases textos.2 punto with ⟨-, lleno⟩ | bar
      · exact Or.inl ⟨c.publicado, publicado, lleno⟩
      · exact Or.inr ⟨rfl, emptied textos.1 bar⟩
  | copia =>
      simp only [TextosEn, here] at textos
      exact Or.inr ⟨rfl, emptied textos.1 (textos.2 punto)⟩
  | token tokens =>
      simp only [TextosEn, here] at textos
      obtain ⟨faltan, hechas, segmentos, reparte⟩ := textos
      exact Or.inr ⟨rfl, handing reparte, _, repartido_hechas limpio reparte rfl⟩
  | anade resto buffer tokens =>
      simp only [TextosEn, here] at textos
      obtain ⟨key, faltan, dados, partidos, hechas, segmentos, reparte⟩ := textos
      refine Or.inr ⟨rfl, handing reparte, ?_⟩
      by_cases given : punto ∈ dados
      · have own : key ∈ punto.grupo := (destinos_key key punto).2.mp
          (partidos ▸ List.mem_append_left _ given)
        exact ⟨_, repartido_actual limpio reparte own (Or.inl (if_pos given))⟩
      · exact ⟨_, repartido_hechas limpio reparte (if_neg given)⟩
  | cierra actual resto buffer tokens =>
      simp only [TextosEn, here] at textos
      obtain ⟨key, faltan, dados, partidos, hechas, segmentos, reparte⟩ := textos
      refine Or.inr ⟨rfl, handing reparte, ?_⟩
      by_cases given : punto ∈ dados
      · have own : key ∈ punto.grupo := (destinos_key key punto).2.mp
          (partidos ▸ List.mem_append_left _ given)
        exact ⟨_, repartido_actual limpio reparte own (Or.inl (if_pos given))⟩
      · by_cases same : punto = actual
        · subst same
          have own : key ∈ punto.grupo := (destinos_key key punto).2.mp
            (partidos ▸ List.mem_append_right _ List.mem_cons_self)
          exact ⟨_, repartido_actual limpio reparte own
            (Or.inr ((if_neg given).trans (if_pos rfl)))⟩
        · exact ⟨_, repartido_hechas limpio reparte ((if_neg given).trans (if_neg same))⟩

/-- A reader that splits an endpoint at its bars finds whole segments only, those of the keys in
its group: of all keys of a frame, or, while `endpoint_discriminator` runs, of the first keys of
the frame that it hands out. Witness: what is known of the texts, by where the task is.
-/
theorem lectura_puntos (atof : Str → UInt32) (nvs : Almacen) (keys : List KeyValue)
    {entradas : List Entrada} {e : Escritor}
    (run : (escritor atof).run (Escritor.inicial nvs keys) entradas = some e) (punto : PuntoWeb)
    : Mostrado keys e punto :=
  coherente_puntos (coherente_run run) punto

/-- The engine has its token before the tank. -/
theorem lectura_puntos_motor
    : ∃ e, (escritor fun _ => 0).run (Escritor.inicial conTanque [.temptrans, .greywater])
          (temperaturaAtendida :: List.replicate 31 .tx)
        = some e
      ∧ e.puntos .motor = "|2:0:21".toList
      ∧ Mostrado [.temptrans, .greywater] e .motor := by
  have shown : ((escritor fun _ => 0).run (Escritor.inicial conTanque [.temptrans, .greywater])
      (temperaturaAtendida :: List.replicate 31 .tx)).map (·.puntos .motor)
      = some "|2:0:21".toList := by
    decide +kernel
  obtain ⟨e, run, same⟩ := Option.map_eq_some_iff.mp shown
  exact ⟨e, run, same, lectura_puntos _ _ _ run .motor⟩

end EspHttpControl.Serial
