import EnvMerge.Text.Basic

namespace EnvMerge.Command

def programName : Text :=
  "dotenv-merge".toList

def usageText : Text :=
  "usage: dotenv-merge [-h] [--output OUTPUT]
                    [--preference \x7btemplate,destination\x7d]
                    [--prefer-type TAG=SIDE] [--append-template-only]
                    [--freeze-token FREEZE_TOKEN] [--pattern PATTERN]
                    [--check] [--report REPORT] [--yes] [--verbose]
                    template destination
".toList

-- Set for 80 columns.
def helpText : Text :=
  usageText ++ "
Merge a template dotenv file into a destination, keeping local customizations.

positional arguments:
  template              Template file or directory
  destination           Destination file or directory

options:
  -h, --help            show this help message and exit
  --output OUTPUT, -o OUTPUT
                        Where to write the merged result (default: update
                        destination in place)
  --preference \x7btemplate,destination\x7d, -p \x7btemplate,destination\x7d
                        Which side wins when a key exists in both (default:
                        destination)
  --prefer-type TAG=SIDE
                        Per statement type preference, e.g.
                        assignment=template (repeatable)
  --append-template-only, -a
                        Append template keys that are missing from the
                        destination
  --freeze-token FREEZE_TOKEN, -t FREEZE_TOKEN
                        Token used in freeze markers (default: dotenv-merge)
  --pattern PATTERN     File name glob used when merging directories (default:
                        *.env*)
  --check               Do not write anything; exit with status 1 if the merge
                        would change files
  --report REPORT       Write the merge decisions as JSON to this path
  --yes, -y             Overwrite an existing output without asking
  --verbose, -v         Enable debug logging

Examples:
  dotenv-merge .env.example .env
  dotenv-merge --append-template-only .env.example .env
  dotenv-merge --preference template -o merged.env .env.example .env
  dotenv-merge --check --pattern '*.env' templates/ deploy/
        
".toList

end EnvMerge.Command
