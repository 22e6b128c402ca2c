import Rover.Grid

namespace Rover

structure Sector where
  executions : Option Int := none
  memory : Option Int := none
  battery : Option Int := none
  map : Option Grid := none

structure Atlas where
  sectors : List (Int × Sector)

def Atlas.sector? (atlas : Atlas) (level : Int) : Option Sector :=
  atlas.sectors.lookup level

theorem Atlas.mem_sectors {atlas : Atlas} {level : Int} {sector : Sector}
    (h : atlas.sector? level = some sector) :
    (level, sector) ∈ atlas.sectors := by
  obtain ⟨before, after, hsectors, -⟩ := List.lookup_eq_some_iff.1 h
  rw [hsectors]
  exact List.mem_append_right before (List.mem_cons_self ..)

theorem Atlas.eq_of_single {level level' : Int} {sector sector' : Sector}
    (h : Atlas.sector? ⟨[(level, sector)]⟩ level' = some sector') :
    sector' = sector := by
  have hmem := Atlas.mem_sectors h
  rw [List.mem_singleton, Prod.mk.injEq] at hmem
  exact hmem.2

end Rover
