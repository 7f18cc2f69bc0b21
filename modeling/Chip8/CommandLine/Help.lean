/-!
The texts of usage and help.
-/

namespace Chip8.CommandLine

def programName : String := "run.py"

def usage : String :=
  "usage: run.py [-h] [--scale SCALE] [--fullscreen] [--clock CLOCK]\n" ++
  "              [--palette \x7bmono,phosphor\x7d] [--mute] [--strict] [--shift-vy]\n" ++
  "              [--jump-vx] [--increment-i] [--logic-vf]\n" ++
  "              rom\n"

def help : String :=
  usage ++
  "\n" ++
  "CHIP-8 emulator\n" ++
  "\n" ++
  "positional arguments:\n" ++
  "  rom                   Path to the CHIP-8 ROM image\n" ++
  "\n" ++
  "options:\n" ++
  "  -h, --help            show this help message and exit\n" ++
  "  --scale SCALE         Integer window scale factor (default: 10)\n" ++
  "  --fullscreen          Launch the emulator in fullscreen mode\n" ++
  "  --clock CLOCK         Instructions executed per second (default: 500)\n" ++
  "  --palette \x7bmono,phosphor\x7d\n" ++
  "                        Display colours (default: phosphor)\n" ++
  "  --mute                Disable the sound timer tone\n" ++
  "  --strict              Stop on unknown opcodes instead of skipping them\n" ++
  "  --shift-vy            8xy6/8xyE shift Vy into Vx (COSMAC VIP behaviour)\n" ++
  "  --jump-vx             Bnnn jumps relative to Vx instead of V0\n" ++
  "  --increment-i         Fx55/Fx65 advance I past the transferred registers\n" ++
  "  --logic-vf            8xy1/8xy2/8xy3 reset VF\n"

end Chip8.CommandLine
