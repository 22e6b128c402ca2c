import Rover.Atlas

namespace Rover.Atlas

def ofSurvey (rows : List String) : Grid :=
  rows.map fun row => row.toList.map fun c => String.ofList ['[', c, ']']

def desert : Sector where
  executions := some 2
  memory := some 800
  battery := some 100
  map := some (ofSurvey [
    "###X##XX##",
    "#X###XXB##",
    "#X##XXX###",
    "XX#XXXX##X",
    "XX#XX?X##X",
    "XXXX#XX#XX",
    "X?XXXX##XX",
    "XXXXXXX#XX",
    "XXXXXX@XXX",
    "XXXX#XXXXX",
    "XX#XXXXXXX",
    "XX#XXX##?X",
    "XX#XXX##XX",
    "XR#XXX#SXX",
    "XX#XX##XX#",
    "X#XXXX#X##"])

def crater : Sector where
  executions := some 3
  memory := some 800
  battery := some 100
  map := some (ofSurvey [
    "###X##XX##",
    "#####XXX##",
    "#B##XXX###",
    "#X#XXXX#XX",
    "#X#XX?X#SX",
    "#X#X#XX#@X",
    "#X#XXX##XX",
    "#XXXXXX##X",
    "#XX#XXXXXX",
    "#XX##XXXXX",
    "#X##XXXXXX",
    "?X##XXXXX?",
    "X###XXXXXX",
    "####XX#XX#",
    "###RX##X##",
    "##X#######"])

def kepler : Atlas where
  sectors := [(1, desert), (2, crater)]

end Rover.Atlas
